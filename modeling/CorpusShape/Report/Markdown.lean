import CorpusShape.Report.Rating
/-!
# The Markdown report

The full report lists the modules with their figures and counts the ratings; the simple one has a line for
each module.
-/
namespace CorpusShape.Report

def textLines (ls : List String) : String := "\n".intercalate ls

def markdown (a : Analysis) : String :=
  let shown := a.thresholds.getD {}
  textLines <|
    ["# Information Sphere Report",
      "Alpha: " ++ number a.alpha,
      "Thresholds: good > " ++ number shown.good ++ ", warning > " ++ number shown.warning,
      "",
      "## Hotspots (lowest sphericity first)"] ++
    a.results.flatMap (fun m =>
      ["- **module** `" ++ m.file ++ "` — S=" ++ sphericity m.sphericity ++ " — **" ++ (a.rating m).text ++ "**",
        "  - V: " ++ number m.volume ++ ", A: " ++ number m.area]) ++
    ["",
      "## Summary",
      "- Good: " ++ toString (a.count .good),
      "- Warning: " ++ toString (a.count .warning),
      "- Collapse: " ++ toString (a.count .collapse)]

def markdownSimple (a : Analysis) : String :=
  textLines <|
    ["# Information Sphere Report", "", "Alpha: " ++ number a.alpha, ""] ++
    a.results.map fun m =>
      "- " ++ m.file ++ " — S=" ++ sphericity m.sphericity ++ " — " ++ (a.rating m).text

/-- The report in the given style. -/
def markdownIn (a : Analysis) : MarkdownStyle → String
  | .full => markdown a
  | .simple => markdownSimple a

end CorpusShape.Report
