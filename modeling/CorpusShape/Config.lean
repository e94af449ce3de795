import CorpusShape.Files
import CorpusShape.Json.Reader
import CorpusShape.Settings.Variables
import CorpusShape.Yaml.Content
/-!
# Configuration

Settings come from four places: what is given directly, then the configuration file, then variables, then
standard values. A configuration file is JSON if its name says so, and else YAML; it holds a mapping.
-/
namespace CorpusShape

/-- A configuration that is there and cannot be used. -/
inductive ConfigError where
  | notFound (path : String)
  | unreadable (path : String) (detail : String)
  | malformed (path : String) (detail : String)
  | notMapping (path : String) (kind : String)
  | invalid (path : Option String) (problems : List Problem)
deriving Repr

namespace ConfigError

/-- Where settings that are not valid came from. -/
def source (path : Option String) : String := path.getD "overrides"

/-- All problems, under a line with their number. -/
def problemsText (problems : List Problem) : String :=
  let count := problems.length
  toString count ++ " validation error" ++ (if count == 1 then "" else "s") ++ " for SphereSettings" ++
    String.join (problems.map fun p => "\n" ++ p.text)

def message : ConfigError → String
  | .notFound path => "Config file not found: " ++ path
  | .unreadable path detail => "Cannot read config file " ++ path ++ ": " ++ detail
  | .malformed path detail => "Malformed config file " ++ path ++ ": " ++ detail
  | .notMapping path kind => "Config file " ++ path ++ " must contain a mapping, got " ++ kind
  | .invalid path problems =>
    "Invalid configuration (" ++ source path ++ "): " ++ problemsText problems

end ConfigError

/-- Why there are no settings. -/
inductive SettingsError where
  | config (e : ConfigError)
  /-- A path that cannot be looked at. -/
  | file (e : FileFailure)
  /-- A value in a configuration file whose text does not fit its kind. -/
  | content (fault : Yaml.Fault)
  /-- A setting whose name is no text. -/
  | nameNotText
  /-- A variable that cannot be read. -/
  | badVariable (name : String)
  /-- A failure of what is left to others. -/
  | foreign (text : String)
deriving Repr

namespace SettingsError

def message : SettingsError → String
  | .config e => e.message
  | .file e => e.message
  | .content fault => fault.message
  | .nameNotText => "keywords must be strings"
  | .badVariable name => "error parsing value for field \"" ++ name ++ "\" from source \"EnvSettingsSource\""
  | .foreign text => text

end SettingsError

/-- What is left to others. -/
structure Readers where
  /-- How YAML is read. -/
  yaml : List UInt8 → Yaml.Reading Value := Yaml.load
  /-- What comes of settings with names that start with a low line, which may be arguments of the record of settings
  itself. Where they are not, they have no effect. -/
  reserved : Entries → Option (Except SettingsError Settings) := fun _ => none

namespace Readers

def isReserved : Value → Bool
  | .text name => name.startsWith "_"
  | _ => false

/-- What comes of settings whose names are texts, if reserved names decide it. -/
def outcome? (r : Readers) (given : Entries) : Option (Except SettingsError Settings) :=
  if given.any fun (k, _) => isReserved k then r.reserved given else none

end Readers

namespace Config

/-- The names of configuration files, the first that is there counts. -/
def fileNames : List String := ["sphere.config.json", "sphere.config.yaml", "sphere.config.yml"]

/-- The configuration file of a root. -/
def find? (files : Files) (root : String) : Except FileFailure (Option String) :=
  (fileNames.map (Path.under root)).findM? files.checkFile

/-- The nesting that a JSON file may have. -/
def jsonDepth : Nat := 1024

def isBlankByte (b : UInt8) : Bool := b == 32 || (9 ≤ b && b ≤ 13)

/-- The value of a JSON file; a blank one is an empty mapping. -/
def jsonValue? (bytes : List UInt8) : Option Value :=
  if bytes.all isBlankByte then some (.map [])
  else do
    let text ← (Utf8.decode bytes).toOption
    Value.ofJson? ⟨true, true⟩ (← Json.read? jsonDepth text)

/-- The value of a YAML file; one that says nothing is an empty mapping. -/
def yamlValue (readers : Readers) (bytes : List UInt8) : Yaml.Reading Value :=
  (readers.yaml bytes).map fun v => if v.isFalsy then .map [] else v

/-- The entries that the bytes of a configuration file hold. -/
def ofBytes (path : String) (bytes : List UInt8) (readers : Readers := {}) : Except SettingsError Entries := do
  let value ← if Path.suffix path == ".json" then
      match jsonValue? bytes with
      | some v => pure v
      | none => .error (.config (.malformed path "not a JSON document"))
    else
      match yamlValue readers bytes with
      | .ok v => pure v
      | .error .malformed => .error (.config (.malformed path "not a YAML document"))
      | .error fault => .error (.content fault)
  match value with
  | .map entries => return entries
  | v => .error (.config (.notMapping path v.kind))

/-- The entries of a configuration file. -/
def load (files : Files) (path : String) (readers : Readers := {}) : Except SettingsError Entries :=
  match files.read path with
  | .ok bytes => ofBytes path bytes readers
  | .error e => .error (.config (.unreadable path e.message))

end Config

/-- What is asked for: a root, a configuration file, and settings that go before all others. -/
structure Request where
  root : Option String := none
  configPath : Option String := none
  overrides : Entries := []
deriving Inhabited

namespace Request

/-- The root, the working directory if none is asked for. -/
def rootPath (r : Request) (files : Files) (env : Environment) : String :=
  match r.root with
  | some root => if root.isEmpty then files.workingDirectory else env.expandPath root
  | none => files.workingDirectory

/-- The configuration file. One that is asked for has to be there. -/
def configFile (r : Request) (files : Files) (env : Environment) : Except SettingsError (Option String) :=
  let root := r.rootPath files env
  match r.configPath with
  | none => (Config.find? files root).mapError .file
  | some given =>
    let path := Path.under root (env.expandPath given)
    match files.checkFile path with
    | .ok true => .ok (some path)
    | .ok false => .error (.config (.notFound path))
    | .error e => .error (.file e)

end Request

namespace Settings

def names : List String := ["debug", "root", "include", "exclude", "weights", "alpha", "thresholds", "report"]

/-- The value under a name, or else under the first that differs from it in case only. -/
def anyCase? (name : String) (entries : Entries) : Option Value :=
  match entries.text? name with
  | some v => some v
  | none =>
    (entries.find? fun (k, _) => match k with
      | .text s => lowerText s == name
      | _ => false).map (·.2)

/-- The entries that are settings, under the names of the settings. -/
def known (entries : Entries) : Entries :=
  names.filterMap fun name => (anyCase? name entries).map fun v => (.text name, v)

def isText : Value → Bool
  | .text _ => true
  | _ => false

/-- The settings from all sources. -/
def load (files : Files) (env : Environment) (r : Request) (readers : Readers := {}) :
    Except SettingsError Settings := do
  let path ← r.configFile files env
  let fromFile ← match path with
    | some path => Config.load files path readers
    | none => pure []
  let given := Entries.merge fromFile r.overrides
  if given.any fun (k, _) => !isText k then .error .nameNotText
  match readers.outcome? given with
  | some outcome => outcome
  | none =>
    let fromVariables ← (ofVariables env).mapError .badVariable
    match Settings.ofEntries (r.rootPath files env) (Entries.merge fromVariables (known given)) with
    | .ok settings => return settings
    | .bad problems => .error (.config (.invalid path problems))

end Settings

end CorpusShape
