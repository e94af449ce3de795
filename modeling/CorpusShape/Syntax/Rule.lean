import CorpusShape.Syntax.Cursor
import CorpusShape.Syntax.Node

/-!
# Grammar rules

A rule reads a stretch of text from a cursor and gives the nodes it has made, or refuses. Rules are
put one after another with `++` and side by side with `<|>`; of two alternatives the first that does
not refuse is taken. Repetition ends with the first round that reads nothing.
-/
namespace CorpusShape.Syntax

/-- A rule of a grammar: the nodes read from a cursor and the place after them. -/
def Rule := Cursor → Option (List Node × Cursor)

namespace Rule

/-- Reads nothing, and never refuses. -/
def nothing : Rule := fun c => some ([], c)

/-- What has been read already. -/
def given (ns : List Node) (d : Cursor) : Rule := fun _ => some (ns, d)

/-- Always refuses. -/
def refuse : Rule := fun _ => none

instance : Inhabited Rule := ⟨refuse⟩

/-- `p`, then `q`. -/
def andThen (p q : Rule) : Rule := fun c =>
  match p c with
  | none => none
  | some (ns, d) =>
    match q d with
    | none => none
    | some (ms, e) => some (ns ++ ms, e)

/-- `p`, or else `q`. -/
def orElse (p : Rule) (q : Unit → Rule) : Rule := fun c =>
  match p c with
  | none => q () c
  | some r => some r

instance : Append Rule := ⟨andThen⟩

instance : OrElse Rule := ⟨orElse⟩

/-- `p`, or nothing. -/
def opt (p : Rule) : Rule := fun c =>
  match p c with
  | none => some ([], c)
  | some r => some r

/-- As many rounds of `p` as there are. -/
def many (p : Rule) : Rule := fun c => some (go c [])
where
  go (c : Cursor) (acc : List Node) : List Node × Cursor :=
    match p c with
    | none => (acc.reverse, c)
    | some (ns, d) =>
      if _h : d.left < c.left then go d (ns.reverse ++ acc) else (acc.reverse, c)
  termination_by c.left

/-- One `p` or more, divided by `sep`. -/
def sepBy1 (p sep : Rule) : Rule := p ++ many (sep ++ p)

/-- Puts what `p` reads into the field `name`. -/
def field (name : String) (p : Rule) : Rule := fun c =>
  match p c with
  | none => none
  | some (ns, d) => some (ns.map (·.inField name), d)

/-- One node over all that `p` reads, up to the place where `p` stops. -/
def node (kind : String) (p : Rule) : Rule := fun c =>
  match p c with
  | none => none
  | some (ns, d) =>
    let start := match ns with
      | [] => c.skipTrivia.offset
      | n :: _ => n.start
    some ([Node.branch kind start d.offset ns], d)

/-- Reads nothing, where `p` would not refuse. -/
def ahead (p : Rule) : Rule := fun c =>
  match p c with
  | none => none
  | some _ => some ([], c)

/-- Reads nothing, where `p` would refuse. -/
def notAhead (p : Rule) : Rule := fun c =>
  match p c with
  | none => some ([], c)
  | some _ => none

/-- `p`, where the nodes it makes satisfy `ok`. -/
def check (ok : List Node → Bool) (p : Rule) : Rule := fun c =>
  match p c with
  | none => none
  | some (ns, d) => if ok ns then some (ns, d) else none

/-- The first alternative that does not refuse. -/
def oneOf : List Rule → Rule
  | [] => refuse
  | p :: ps => fun c =>
    match p c with
    | none => oneOf ps c
    | some r => some r

/-- Grows one node by `step` for as long as `step` moves on. -/
def grow (step : Node → Cursor → Option (Node × Cursor)) (n : Node) (c : Cursor) : Node × Cursor :=
  match step n c with
  | none => (n, c)
  | some (m, d) => if _h : d.left < c.left then grow step m d else (n, c)
termination_by c.left

end Rule

end CorpusShape.Syntax
