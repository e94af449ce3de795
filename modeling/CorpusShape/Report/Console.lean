import CorpusShape.Console.Markup
import CorpusShape.Report.Rating
/-!
# The report on the console

The modules with their figures, lowest sphericity first, printed with markup.
-/
namespace CorpusShape.Report

/-- The style of a rating. -/
def ratingStyle : Rating → String
  | .good => "green"
  | .warning => "yellow"
  | .collapse => "bold red"
  | .unknown => "dim"

/-- What is printed for a module, print by print. -/
def consoleModule (a : Analysis) (m : Metrics) : List String :=
  let rating := a.rating m
  let style := ratingStyle rating
  ["Module: [cyan]" ++ Console.escape m.file ++ "[/cyan]",
    "  Internal cohesion (V): " ++ number m.volume,
    "  Public surface (A): " ++ number m.area,
    "  Cohesion (calls internal / calls total): " ++ Decimal.fixed 3 m.cohesion,
    "  Sphericity (S): " ++ sphericity m.sphericity ++ "  [" ++ style ++ "]" ++ rating.text ++ "[/" ++ style ++ "]",
    ""]

/-- What is printed, print by print. -/
def consolePrints (a : Analysis) : List String :=
  ["", "[bold]Information Sphere — Ranked hotspots (lowest S first)[/bold]", "alpha = " ++ number a.alpha, ""] ++
  if a.results.isEmpty then
    ["[yellow]No source files found by the analyzer. Check sphere.config.json include patterns.[/yellow]"]
  else
    a.results.flatMap (consoleModule a) ++
      ["Analyzed " ++ toString a.results.length ++ " modules."]

end CorpusShape.Report
