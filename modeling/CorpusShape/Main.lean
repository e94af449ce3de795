import CorpusShape.CommandLine
import CorpusShape.Files.Change
/-!
# The program

The outer layer of the command line. It reads the files that a run may look at into a tree, runs, prints what
the run has printed, and writes the files that have changed.
-/
namespace CorpusShape.Program

open CommandLine

/-- Whether the bytes of a file may be looked at: modules and configuration files. -/
def isReadable (name : String) : Bool := (dialectOf? name).isSome || Config.fileNames.contains name

/-- The entry at a path on disk, with all that is below it. A link is kept with the place to which it leads, and the
directories of vendors are left empty. -/
partial def readEntry (path name : String) : IO Entry := do
  let real ← IO.FS.realPath path
  if ← real.isDir then
    let mut entries : Directory := []
    if !vendorDirectories.contains name then
      for e in ← real.readDir do
        let below := path ++ "/" ++ e.fileName
        let target := (← IO.FS.realPath below).toString
        let isLink := target != real.toString ++ "/" ++ e.fileName
        let entry ← if isLink then pure (.link target) else readEntry below e.fileName
        entries := entries.put e.fileName entry
    return .directory entries
  else if isReadable name then return .file (← IO.FS.readBinFile path).toList
  else return .file []

/-- The places whose files a run may look at: the working directory, a root and a configuration file. -/
def places (env : Environment) (arguments : List String) : List String :=
  let separate := (arguments.zip (arguments.drop 1)).filter fun (name, _) => ["--root", "--config"].contains name
  let joined := arguments.filterMap fun a =>
    match splitOption a with
    | ("--root", value) => value
    | ("--config", value) => value
    | _ => none
  (separate.map (·.2) ++ joined).map env.expandPath

/-- The environment of this process. -/
def environment : IO Environment := do
  try
    let bytes ← IO.FS.readBinFile "/proc/self/environ"
    let text := (Utf8.decode bytes.toList).toOption.getD ""
    return Table.ofPairs ((text.splitOn "\x00").filterMap fun entry =>
      match entry.splitOn "=" with
      | name :: value => if value.isEmpty then none else some (name, "=".intercalate value)
      | [] => none)
  catch _ => return []

/-- The files that a run may look at. -/
def readFiles (env : Environment) (arguments : List String) : IO Files := do
  let here := (← IO.currentDir).toString
  let start : Files :=
    { top := Directory.plant (← readEntry here "") (Path.steps here) [], here := Path.steps here }
  (places env arguments).foldlM (fun files (place : String) => do
    let real ← IO.FS.realPath place
    if (← real.pathExists) && !(real.toString.startsWith here) then
      let entry ← if ← real.isDir then readEntry real.toString ""
        else pure (.file (← IO.FS.readBinFile real).toList)
      return { files with top := Directory.plant entry (Path.steps real.toString) files.top }
    else return files) start

/-- Writes the files that have changed. -/
def writeChanges (changes : List (List String × List UInt8)) : IO Unit :=
  changes.forM fun (path, content) => do
    IO.FS.createDirAll (Files.fromTop path.dropLast)
    IO.FS.writeBinFile (Files.fromTop path) ⟨content.toArray⟩

/-- The width of the console. -/
def consoleWidth (env : Environment) : Nat := ((env.get? "COLUMNS").bind String.toNat?).getD 80

def tellLines (asJson : Bool) (log : List LogLine) : IO Unit :=
  log.forM fun
    | .event e => IO.eprintln (if asJson then e.jsonLine else e.textLine)
    | .text line => IO.eprintln line

end CorpusShape.Program

open CorpusShape CorpusShape.Program in
/-- Runs the program with the arguments of the process. -/
def main (arguments : List String) : IO UInt32 := do
  let env ← environment
  let files ← readFiles env arguments
  let outcome := CommandLine.run (consoleWidth env) files env arguments
  let session := outcome.session
  IO.print session.output
  let asJson := arguments.contains "--log-json" || !(← (← IO.getStderr).isTty)
  tellLines asJson session.log
  writeChanges (Files.changes files session.files)
  match outcome.status with
  | .ok status => return UInt32.ofNat status
  | .error text => do
    IO.eprintln text
    return 1
