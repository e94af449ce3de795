import CorpusShape.Analysis
import CorpusShape.CommandLine.Help
import CorpusShape.Config
import CorpusShape.Report.Console
import CorpusShape.Report.Json
import CorpusShape.Report.Markdown
/-!
# The command line

A run of the program: from the files, the environment and the arguments to the files afterwards, what is printed, what is
told about the run, and the status. A failure of the configuration or of the analysis is printed and ends the run with
status 1, and so does any other failure.
-/
namespace CorpusShape.CommandLine

/-- One line about a run. -/
inductive LogLine where
  | event (e : Event)
  | text (line : String)
deriving Repr

/-- What a run has done so far. Events below its level are not told. -/
structure Session where
  files : Files
  debug : Bool := false
  output : String := ""
  log : List LogLine := []
deriving Inhabited

/-- Steps of a run. A step may fail with a text, and what was done before it remains. -/
abbrev Steps (α : Type) := ExceptT String (StateM Session) α

/-- Prints markup on a console of the given width. -/
def print (width : Nat) (markup : String) : Steps Unit :=
  match Console.printed width markup with
  | .ok s => modify fun session => { session with output := session.output ++ s }
  | .error e => throw e.message

/-- Tells an event. -/
def tell (e : Event) : Steps Unit :=
  modify fun session => if e.isShown session.debug then { session with log := session.log ++ [.event e] } else session

def ofCli (level : Level) (name : String) (fields : Table Value) : Event :=
  { level, name, component := some "cli", fields }

/-- The settings that options give. -/
def AnalyzeOptions.overrides (o : AnalyzeOptions) (debug : Bool) : Entries :=
  let texts (name : String) (values : List String) : Entries :=
    if values.isEmpty then [] else [(.text name, .list (values.map .text))]
  let destination (name : String) (value : Option String) : Entries :=
    match value with
    | some path => if path.isEmpty then [] else [(.text name, .text path)]
    | none => []
  let report := destination "json" o.json ++ destination "markdown" o.markdown
  (if debug then [(.text "debug", .bool true)] else []) ++ texts "include" o.included ++ texts "exclude" o.excluded ++
    (match o.alpha with
      | some alpha => [(.text "alpha", .float alpha)]
      | none => []) ++
    (if report.isEmpty then [] else [(.text "report", .map report)])

/-- What is asked for with options. -/
def AnalyzeOptions.request (o : AnalyzeOptions) (debug : Bool) : Request :=
  { root := o.root.map Path.spelled, configPath := o.config.map Path.spelled, overrides := o.overrides debug }

/-- A failure that the command itself reports. -/
def fail (width : Nat) (text : String) : Steps Nat := do
  tell (ofCli .error "analysis_failed" [("error", .text text)])
  print width ("[red]Analyzer error:[/red] " ++ text)
  return 1

/-- Writes a file, and makes the directories above it. -/
def writeFile (path : String) (content : String) : Steps Unit := do
  let session ← get
  let effect := session.files.deliver path (Utf8.encode content)
  set { session with files := effect.files }
  match effect.failure with
  | some e => throw e.message
  | none => pure ()

/-- Writes a report to its destination below the root. -/
def writeReport (width : Nat) (root destination kind event : String) (content : String) : Steps Unit := do
  let path := Path.under root destination
  writeFile path content
  print width ("Wrote " ++ kind ++ " report: " ++ destination)
  tell (ofCli .debug event [("path", .text path)])

/-- Writes the JSON report if the settings ask for it. -/
def writeJson (width : Nat) (s : Settings) (a : Analysis) : Steps Unit :=
  match s.report.json.filter (!·.isEmpty) with
  | some destination =>
    match Report.json? a with
    | some content => writeReport width s.root destination "JSON" "json_report_written" content
    | none => throw "Integer exceeds 64-bit range"
  | none => pure ()

/-- Writes the Markdown report if the settings ask for it. -/
def writeMarkdown (width : Nat) (s : Settings) (a : Analysis) : Steps Unit :=
  match s.report.markdown.filter (!·.isEmpty) with
  | some destination =>
    writeReport width s.root destination "Markdown" "markdown_report_written" (Report.markdownIn a s.report.style)
  | none => pure ()

/-- Writes the reports if there are modules, unless only the console is asked for. -/
def writeReports (width : Nat) (o : AnalyzeOptions) (s : Settings) (a : Analysis) : Steps Unit :=
  if a.results.isEmpty || o.noReport then pure ()
  else do
    writeJson width s a
    writeMarkdown width s a

/-- Prints the outcome of an analysis, and writes its reports. -/
def report (width : Nat) (o : AnalyzeOptions) (s : Settings) (a : Analysis) : Steps Nat := do
  (Report.consolePrints a).forM (print width)
  writeReports width o s a
  return 0

/-- The command that analyses. -/
def analyze (width : Nat) (env : Environment) (o : AnalyzeOptions) : Steps Nat := do
  let session ← get
  match Settings.load session.files env (o.request session.debug) with
  | .error (.config e) => fail width e.message
  | .error (.file e) => fail width e.message
  | .error e => throw e.message
  | .ok s =>
    modify fun session => { session with debug := session.debug || s.debug }
    match session.files.inspect (session.files.resolve s.root) with
    | .error e => fail width e.message
    | .ok _ =>
      (Analysis.events session.files s).forM tell
      match Analysis.run session.files s with
      | .ok a => report width o s a
      | .error (.load (.unreadable failure)) => fail width failure.message
      | .error e => throw e.message

def versionNumber : String := "0.1.0"

/-- A task and the status that it ends with. -/
def perform (width : Nat) (env : Environment) : Task → Steps Nat
  | .help command => do
    modify fun session => { session with output := session.output ++ command.help }
    return 0
  | .version => do
    print width ("[bold]Information Sphere[/bold] v" ++ versionNumber)
    return 0
  | .analyze o => analyze width env o

/-- A failure that no command expects. It is told and printed; its text may be no markup itself. -/
def unexpected (width : Nat) (text : String) : Steps Nat := do
  tell (ofCli .error "unexpected_error" [("error", .text text)])
  print width ("[red]Error:[/red] " ++ text)
  return 1

/-- How a run has ended: with a status, or with a failure that could not even be printed. -/
structure Outcome where
  session : Session
  status : Except String Nat

/-- Runs the program. -/
def run (width : Nat) (files : Files) (env : Environment) (arguments : List String) : Outcome :=
  match Invocation.ofArguments files arguments with
  | .error e => { session := { files, log := e.lines.map .text }, status := .ok UsageError.status }
  | .ok invocation =>
    match (perform width env invocation.task).run.run { files, debug := invocation.debug } with
    | (.ok status, session) => { session, status := .ok status }
    | (.error text, session) =>
      let (status, session) := (unexpected width text).run.run session
      { session, status }

end CorpusShape.CommandLine
