import CorpusShape.Json.Writer
import CorpusShape.Report.Rating
/-!
# The JSON report

The exponent of the run, and every module with its figures, its counters and its rating.
-/
namespace CorpusShape.Report

/-- Doubles are positional from `0.00001` up to 16 digits before the point. -/
def jsonLayout : Decimal.Layout := { least := -5, most := 15, exponentWidth := 1 }

/-- A double; what is not finite is null. -/
def jsonFloat (x : Float) : Json := if Double.isFinite x then .number (jsonLayout.write x) else .null

/-- An integer of at most 64 bits. -/
def jsonInt? (i : Int) : Option Json := if -(twoTo 63 : Int) ≤ i && i < twoTo 64 then some (.ofInt i) else none

/-- The figures of a module; none if a counter is too large. -/
def jsonMetrics? (a : Analysis) (m : Metrics) : Option Json := do
  let extras ← m.extras.mapM fun (name, i) => do return (name, ← jsonInt? i)
  return .object [("id", .string m.id), ("file", .string m.file), ("V", jsonFloat m.volume),
    ("A", jsonFloat m.area), ("s", jsonFloat m.sphericity), ("cohesion", jsonFloat m.cohesion),
    ("extras", .object extras), ("rating", .string (a.rating m).text)]

/-- The report as a text; none if a counter is too large. -/
def json? (a : Analysis) : Option String := do
  let results ← a.results.mapM (jsonMetrics? a)
  return Json.indented "" (.object [("meta", .object [("alpha", jsonFloat a.alpha)]), ("results", .array results)])

end CorpusShape.Report
