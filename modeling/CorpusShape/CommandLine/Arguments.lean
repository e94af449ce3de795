import CorpusShape.Files
import CorpusShape.Numeric.Literal
/-!
# Arguments

What the arguments of the program ask for. Options of the program stand before the command, options of the command
anywhere after it. A value follows its option, or is joined to it by an equals sign; of an option that is given
several times the last value counts, unless it collects them.
-/
namespace CorpusShape.CommandLine

/-- The program itself, or one of its commands. -/
inductive Command where
  | program
  | analyze
  | version
deriving Repr, DecidableEq, Inhabited

/-- An option: its name, the kind of value that it takes, and what it is for. -/
structure OptionRule where
  name : String
  valueKind : Option String := none
  purpose : String
deriving Repr

namespace Command

/-- The words that call a command. -/
def words : Command → String
  | .program => "infosphere"
  | .analyze => "infosphere analyze"
  | .version => "infosphere version"

/-- How a command is used. -/
def usage : Command → String
  | .program => "Usage: infosphere [OPTIONS] [COMMAND] [ARGS]..."
  | c => "Usage: " ++ c.words ++ " [OPTIONS]"

/-- What a command is for. -/
def purpose : Command → String
  | .program => "Information Sphere - structural shape metrics for TypeScript codebases"
  | .analyze => "Analyze the corpus and rank modules by sphericity"
  | .version => "Show version information"

def helpOption : OptionRule := { name := "--help", purpose := "Show this message and exit." }

def options : Command → List OptionRule
  | .program =>
    [{ name := "--debug", purpose := "Enable debug logging" },
      { name := "--log-json", purpose := "Emit logs as JSON lines" }, helpOption]
  | .analyze =>
    [{ name := "--root", valueKind := some "DIRECTORY", purpose := "Working root of the corpus" },
      { name := "--config", valueKind := some "PATH",
        purpose := "Config file (default: sphere.config.json in root)" },
      { name := "--include", valueKind := some "TEXT", purpose := "Include glob, repeatable" },
      { name := "--exclude", valueKind := some "TEXT", purpose := "Exclude glob, repeatable" },
      { name := "--alpha", valueKind := some "FLOAT", purpose := "Sphericity exponent" },
      { name := "--json", valueKind := some "TEXT", purpose := "JSON report destination" },
      { name := "--markdown", valueKind := some "TEXT", purpose := "Markdown report destination" },
      { name := "--no-report", purpose := "Print to the console only" }, helpOption]
  | .version => [helpOption]

/-- The command of a name. -/
def ofName? : String → Option Command
  | "analyze" => some .analyze
  | "version" => some .version
  | _ => none

end Command

/-- What is wrong with arguments. -/
inductive UsageProblem where
  | noSuchOption (name : String)
  | noSuchCommand (name : String)
  | unexpected (arguments : List String)
  | notNumber (option value : String)
  | isFile (option value : String)
  | valueMissing (option : String)
  | valueNotTaken (option : String)
deriving Repr, DecidableEq

namespace UsageProblem

def message : UsageProblem → String
  | .noSuchOption name => "No such option " ++ Text.quoted name ++ "."
  | .noSuchCommand name => "No such command " ++ Text.quoted name ++ "."
  | .unexpected arguments =>
    "Got unexpected extra argument" ++ (if arguments.length == 1 then "" else "s") ++ " (" ++
      String.intercalate " " arguments ++ ")"
  | .notNumber option value =>
    "Invalid value for '" ++ option ++ "': " ++ Text.quoted value ++ " is not a valid float."
  | .isFile option value => "Invalid value for '" ++ option ++ "': Directory " ++ Text.quoted value ++ " is a file."
  | .valueMissing option => "Option " ++ Text.quoted option ++ " requires an argument."
  | .valueNotTaken option => "Option " ++ Text.quoted option ++ " does not take a value."

/-- Whether the usage of the command is shown before the message. -/
def showsUsage : UsageProblem → Bool
  | .valueMissing _ => false
  | .valueNotTaken _ => false
  | _ => true

end UsageProblem

structure UsageError where
  command : Command
  problem : UsageProblem
deriving Repr, DecidableEq

namespace UsageError

def lines (e : UsageError) : List String :=
  let start := if e.problem.showsUsage
    then [e.command.usage, "Try '" ++ e.command.words ++ " --help' for help.", ""] else []
  start ++ ["Error: " ++ e.problem.message]

/-- The status with which the program ends. -/
def status : Nat := 2

end UsageError

/-- The options that were given, in order, and the other arguments. -/
structure Given where
  options : List (String × Option String) := []
  others : List String := []
deriving Repr

namespace Given

def option (name : String) (value : Option String) (g : Given) : Given := { g with options := (name, value) :: g.options }

def other (argument : String) (g : Given) : Given := { g with others := argument :: g.others }

def has (g : Given) (name : String) : Bool := g.options.any (·.1 == name)

/-- All values of an option. -/
def values (g : Given) (name : String) : List String :=
  g.options.filterMap fun (n, v) => if n == name then v else none

/-- The value of an option that takes one: the last. -/
def value? (g : Given) (name : String) : Option String := (g.values name).getLast?

end Given

/-- The name and the joined value of an option. -/
def splitOption (argument : String) : String × Option String :=
  let cs := argument.toList
  match cs.dropWhile (· != '=') with
  | _ :: value => (String.ofList (cs.takeWhile (· != '=')), some (String.ofList value))
  | [] => (argument, none)

/-- Whether an argument is an option: a hyphen and more. -/
def isOption (argument : String) : Bool := argument.startsWith "-" && 1 < argument.length

/-- The name by which an option that is not known is shown. A single hyphen takes one letter. -/
def unknownName (argument : String) : String :=
  if argument.startsWith "--" then (splitOption argument).1 else (argument.take 2).toString

/-- Reads arguments by the options of a command. Two hyphens end the options. Where other arguments do not mix with
options, the first of them ends the options too. -/
def read (rules : List OptionRule) (mixed : Bool) : List String → Except UsageProblem Given
  | [] => .ok {}
  | argument :: rest =>
    if argument == "--" then .ok { others := rest }
    else if isOption argument then
      let (name, joined) := splitOption argument
      match rules.find? (·.name == name) with
      | none => .error (.noSuchOption (unknownName argument))
      | some rule =>
        if rule.valueKind.isNone then
          if joined.isSome then .error (.valueNotTaken name)
          else (read rules mixed rest).map (·.option name none)
        else
          match joined, rest with
          | some value, rest => (read rules mixed rest).map (·.option name (some value))
          | none, value :: rest => (read rules mixed rest).map (·.option name (some value))
          | none, [] => .error (.valueMissing name)
    else if mixed then (read rules mixed rest).map (·.other argument)
    else .ok { others := argument :: rest }

/-- A number as an argument: low lines stand between digits only. -/
def numberOf? (s : String) : Option Float :=
  let cs := Numeric.trimBlanks s.toList
  let betweenDigits : Bool := (List.range cs.length).all fun i =>
    cs[i]? != some '_' ||
      (0 < i && (cs[i - 1]?).any Char.isDigit && (cs[i + 1]?).any Char.isDigit)
  if betweenDigits then Numeric.plainNumber? (cs.filter (· != '_')) else none

/-- What the command that analyses is asked for. -/
structure AnalyzeOptions where
  root : Option String := none
  config : Option String := none
  included : List String := []
  excluded : List String := []
  alpha : Option Float := none
  json : Option String := none
  markdown : Option String := none
  noReport : Bool := false
deriving Repr, Inhabited

namespace AnalyzeOptions

/-- The problem with the value of an option. A root may not be a file. -/
def problem? (files : Files) (g : Given) (name : String) : Option UsageProblem :=
  match name, g.value? name with
  | "--alpha", some value => if (numberOf? value).isNone then some (.notNumber name value) else none
  | "--root", some value => if !value.isEmpty && files.isFile value then some (.isFile name value) else none
  | _, _ => none

/-- The options, if the values that were given are right, looked at in the order in which they were given. -/
def ofGiven (files : Files) (g : Given) : Except UsageProblem AnalyzeOptions :=
  match (g.options.filterMap fun (name, _) => problem? files g name).head? with
  | some problem => .error problem
  | none =>
    if !g.others.isEmpty then .error (.unexpected g.others)
    else .ok
      { root := g.value? "--root"
        config := g.value? "--config"
        included := g.values "--include"
        excluded := g.values "--exclude"
        alpha := (g.value? "--alpha").bind numberOf?
        json := g.value? "--json"
        markdown := g.value? "--markdown"
        noReport := g.has "--no-report" }

end AnalyzeOptions

/-- What the arguments ask for. -/
inductive Task where
  | help (command : Command)
  | version
  | analyze (options : AnalyzeOptions)
deriving Repr

/-- A task, and how its events are told. -/
structure Invocation where
  debug : Bool := false
  logJson : Bool := false
  task : Task
deriving Repr

namespace Invocation

/-- The task of a command with its arguments. -/
def taskOf (files : Files) (command : Command) (arguments : List String) : Except UsageError Task :=
  let problem : UsageProblem → UsageError := fun p => ⟨command, p⟩
  match read command.options true arguments with
  | .error p => .error (problem p)
  | .ok g =>
    if g.has "--help" then .ok (.help command)
    else
      match command with
      | .analyze => ((AnalyzeOptions.ofGiven files g).mapError problem).map .analyze
      | _ => if g.others.isEmpty then .ok .version else .error (problem (.unexpected g.others))

/-- What all arguments ask for. Without a command, an analysis with no options is meant. -/
def ofArguments (files : Files) (arguments : List String) : Except UsageError Invocation :=
  match read (Command.options .program) false arguments with
  | .error p => .error ⟨.program, p⟩
  | .ok g =>
    let invocation (task : Task) : Invocation := { debug := g.has "--debug", logJson := g.has "--log-json", task }
    if g.has "--help" then .ok (invocation (.help .program))
    else
      match g.others with
      | [] => .ok (invocation (.analyze {}))
      | name :: rest =>
        match Command.ofName? name with
        | some command => (taskOf files command rest).map invocation
        | none => .error ⟨.program, .noSuchCommand name⟩

end Invocation

end CorpusShape.CommandLine
