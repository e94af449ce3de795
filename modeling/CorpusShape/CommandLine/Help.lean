import CorpusShape.CommandLine.Arguments
/-!
# Help

The help page of a command: its usage, its purpose, its options, and the commands of the program.
-/
namespace CorpusShape.CommandLine

/-- Rows of two columns. -/
def columns (rows : List (String × String)) : List String :=
  let width := (rows.map fun r => r.1.length).foldl max 0
  rows.map fun (first, second) =>
    "  " ++ first ++ String.ofList (List.replicate (width + 2 - first.length) ' ') ++ second

namespace OptionRule

/-- The option with the kind of its value. -/
def shown (o : OptionRule) : String :=
  match o.valueKind with
  | some kind => o.name ++ " " ++ kind
  | none => o.name

end OptionRule

namespace Command

def help (c : Command) : String :=
  let options := columns (c.options.map fun o => (o.shown, o.purpose))
  let commands := if c == .program
    then ["", "Commands:"] ++ columns [("analyze", purpose .analyze), ("version", purpose .version)] else []
  String.join (([c.usage, "", "  " ++ c.purpose, "", "Options:"] ++ options ++ commands).map (· ++ "\n"))

end Command

end CorpusShape.CommandLine
