import CorpusShape.Score
/-!
# Ratings

A module is good, a warning or a collapse by the thresholds that its sphericity exceeds. Without
thresholds, or without a finite sphericity, nothing is known.
-/
namespace CorpusShape

inductive Rating where
  | good
  | warning
  | collapse
  | unknown
deriving Repr, DecidableEq

namespace Rating

def text : Rating → String
  | .good => "GOOD"
  | .warning => "WARNING"
  | .collapse => "COLLAPSE"
  | .unknown => "UNKNOWN"

def of (s : Option Float) (thresholds : Option Thresholds) : Rating :=
  match thresholds, s with
  | some t, some s =>
    if !Double.isFinite s then .unknown
    else if Double.less t.good s then .good
    else if Double.less t.warning s then .warning
    else .collapse
  | _, _ => .unknown

end Rating

/-- The outcome of an analysis. -/
structure Analysis where
  results : List Metrics := []
  alpha : Float
  thresholds : Option Thresholds := none
deriving Repr

namespace Analysis

def rating (a : Analysis) (m : Metrics) : Rating := .of (some m.sphericity) a.thresholds

/-- The number of modules with a rating. -/
def count (a : Analysis) (r : Rating) : Nat := (a.results.filter fun m => a.rating m == r).length

end Analysis

namespace Report

/-- A number in a report: at most six digits. -/
def number (x : Float) : String := Decimal.general 6 x

/-- From here on a sphericity is written with an exponent. -/
def exponentFrom : Float := 1e21

/-- A sphericity in a report: three places. -/
def sphericity (s : Float) : String :=
  if Double.isInfinite s || !Double.less (Double.abs s) exponentFrom && !Double.isNaN s then Decimal.scientific 3 s
  else Decimal.fixed 3 s

end Report

end CorpusShape
