import CorpusShape.Counters
import CorpusShape.Numeric.Power
import CorpusShape.Ranking
import CorpusShape.Settings
/-!
# Scores

The shape of a module. Its volume weighs what it does inside, its area what it shows and needs outside, and
its sphericity is the volume divided by a power of the area. A module without area has the least area there
is, so that it still has a sphericity.
-/
namespace CorpusShape

/-- Why a module has no score. -/
inductive ScoreError where
  /-- A count is too large to be weighed by a double. -/
  | tooLarge
  /-- The power of the area has no value. -/
  | undefined
  | invalid (problems : List Problem)
deriving Repr

/-- The final figures of a module. -/
structure Metrics where
  id : String
  file : String
  volume : Float
  area : Float
  sphericity : Float
  cohesion : Float
  extras : List (String × Int) := []
deriving Repr, Inhabited

namespace Counters

def volume? (k : Counters) (w : Weights) : Option Amount :=
  Amount.weighted? [(k.privateMethods, w.privateMethod),
    (k.callsInternal + k.incomingInternal, w.internalCall),
    (k.internalTypes, w.internalType)]

def area? (k : Counters) (w : Weights) : Option Amount :=
  Amount.weighted? [(k.exportedCount, w.exportedSymbol),
    (k.publicMethods, w.publicMethod),
    (k.externalImports, w.externalImport),
    (k.outgoingHits, w.outgoingCall),
    (k.callsExternal, w.outgoingCall)]

/-- The fraction of the calls that stay inside the module; 1 if there are no calls. -/
def cohesion? (k : Counters) : Option Float :=
  if k.callsTotal == 0 then some 1 else Double.quotient? k.callsInternal k.callsTotal

end Counters

/-- The area whose power is taken: that of a module without area is the least there is. -/
def scoredArea (area : Amount) : Amount := if area.isZero then .float Double.epsilon else area

/-- The volume divided by the area to the power `alpha`. A denominator that is too large makes it zero, and
one that is too small the greatest double. -/
def sphericityOf (alpha : Float) (volume area : Amount) : Except ScoreError Float :=
  match (scoredArea area).toFloat? with
  | none => .ok 0
  | some base =>
    match Double.power base alpha with
    | .error .tooLarge => .ok 0
    | .error .undefined => .error .undefined
    | .ok denominator =>
      if Double.isZero denominator then .ok (if volume.isPositive then Double.greatest else 0)
      else
        match volume.toFloat? with
        | none => .error .tooLarge
        | some v =>
          let s := v / denominator
          .ok (if Double.isInfinite s then Double.greatest else s)

namespace Metrics

/-- A cohesion is a fraction between 0 and 1. -/
def checkedCohesion (x : Float) : Checked Float :=
  if !(Double.less x 1 || Double.same x 1) then .one .aboveOne (.float x)
  else if !(Double.less 0 x || Double.same 0 x) then .one .belowZero (.float x)
  else .ok x

/-- Figures as a record, with the path of the module as its id; volume and area must be doubles. -/
def ofFigures (file : String) (volume area : Amount) (s cohesion : Float) (extras : List (String × Int)) :
    Checked Metrics :=
  let figure (name : String) (a : Amount) : Checked Float :=
    match a.toFloat? with
    | some x => .ok x
    | none => (Checked.one .notNumber (match a with | .int i => .int i | .float x => .float x)).under (.name name)
  (fun v a c => { id := file, file, volume := v, area := a, sphericity := s, cohesion := c, extras }) <$>
    figure "V" volume <*> figure "A" area <*> (checkedCohesion cohesion).under (.name "cohesion")

/-- The metrics of a module with the given counters. -/
def ofCounters (w : Weights) (alpha : Float) (file : String) (k : Counters) : Except ScoreError Metrics :=
  match k.volume? w, k.area? w, k.cohesion? with
  | some volume, some area, some cohesion =>
    match sphericityOf alpha volume area with
    | .error e => .error e
    | .ok s =>
      match ofFigures file volume area s cohesion k.toList with
      | .ok m => .ok m
      | .bad problems => .error (.invalid problems)
  | _, _, _ => .error .tooLarge

/-- Whether the second may not stand before the first. -/
def notAfter (a b : Metrics) : Bool := Double.rank a.sphericity ≤ Double.rank b.sphericity

/-- From the least sphericity to the greatest; equal ones keep their order. A sphericity that is no number is
neither less nor greater than another. -/
def ranked (ms : List Metrics) : List Metrics :=
  if ms.all fun m => !Double.isNaN m.sphericity then ms.mergeSort notAfter
  else Ranking.ofList (fun a b => Double.less a.sphericity b.sphericity) ms

end Metrics

end CorpusShape
