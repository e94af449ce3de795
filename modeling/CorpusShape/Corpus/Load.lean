import CorpusShape.Corpus
import CorpusShape.Files
import CorpusShape.Log
import CorpusShape.Scan
import CorpusShape.Text.Utf8
/-!
# Loading a corpus

The files below a root are visited in the order of the walk. Those that the rules select are read as modules;
the first that cannot be read ends the loading.
-/
namespace CorpusShape

/-- What the rules say about a file. -/
inductive Choice where
  | skipped
  | excluded
  | selected (dialect : Syntax.Dialect)
  /-- The patterns stand for too many others. -/
  | undecided
deriving Repr, DecidableEq

namespace FileRules

/-- Whether a file is taken, by its path from the root. -/
def choice (r : FileRules) (path : String) : Choice :=
  match r.includes? path with
  | none => .undecided
  | some false => .skipped
  | some true =>
    match r.excludes? path with
    | none => .undecided
    | some true => .excluded
    | some false =>
      match dialectOf? path with
      | some d => .selected d
      | none => .skipped

end FileRules

/-- Directories that are not entered. -/
def vendorDirectories : List String := ["node_modules", ".git"]

/-- The paths below a root that are visited. -/
def Files.sourcePaths (files : Files) (root : String) : List String :=
  files.walk (fun name => !vendorDirectories.contains name) root

/-- The selected files below a root with their dialects; none if the patterns stand for too many others. -/
def FileRules.scan? (rules : FileRules) (files : Files) (root : String) : Option (List (String × Syntax.Dialect)) :=
  let choices := (files.sourcePaths root).map fun path => (path, rules.choice path)
  if choices.any fun c => c.2 == .undecided then none
  else some (choices.filterMap fun (path, c) => match c with
    | .selected d => some (path, d)
    | _ => none)

/-- The module of a file below a root. -/
def Module.ofFile (files : Files) (root path : String) (dialect : Syntax.Dialect) : Except ParseFailure Module :=
  match files.read (Path.under root path) with
  | .error e => .error { path, reason := .unreadable e.message }
  | .ok bytes =>
    match Utf8.decode bytes with
    | .error fault => .error { path, reason := .notUtf8 fault.message }
    | .ok text => Module.ofText dialect path text

/-- Why a corpus could not be loaded. -/
inductive LoadError where
  | unreadable (failure : ParseFailure)
  | tooManyPatterns
deriving Repr, DecidableEq

namespace LoadError

def message : LoadError → String
  | .unreadable failure => failure.message
  | .tooManyPatterns => "Pattern limit exceeded the limit of " ++ toString GlobSet.limit

end LoadError

/-- What a visit to a file comes to. -/
inductive Visit where
  | skipped
  | excluded (path : String)
  | loaded (m : Module)
  | failed (e : LoadError)

namespace Visit

def of (files : Files) (rules : FileRules) (root path : String) : Visit :=
  match rules.choice path with
  | .skipped => .skipped
  | .excluded => .excluded path
  | .undecided => .failed .tooManyPatterns
  | .selected dialect =>
    match Module.ofFile files root path dialect with
    | .ok m => .loaded m
    | .error failure => .failed (.unreadable failure)

/-- The corpus of the modules that were loaded, or the first failure. -/
def corpus (visits : List Visit) : Except LoadError Corpus :=
  visits.foldlM (fun (c : Corpus) v => match v with
    | .loaded m => .ok (c.add m)
    | .failed e => .error e
    | _ => .ok c) {}

def isFailed : Visit → Bool
  | .failed _ => true
  | _ => false

/-- What is told about a visit. -/
def event? : Visit → Option Event
  | .excluded path =>
    some { level := .debug, name := "file_excluded", component := some "scanner", fields := [("path", .text path)] }
  | .loaded m =>
    some { level := .debug, name := "module_parsed", component := some "scanner",
           fields := [("path", .text m.path), ("calls", .int m.calls.length), ("classes", .int m.classes.length),
             ("functions", .int m.functions.length)] }
  | _ => none

/-- What is told about the visits up to the first failure. -/
def events (visits : List Visit) : List Event := (visits.takeWhile (!·.isFailed)).filterMap event?

end Visit

/-- The visits to all files below a root. -/
def FileRules.visits (rules : FileRules) (files : Files) (root : String) : List Visit :=
  (files.sourcePaths root).map (Visit.of files rules root)

end CorpusShape
