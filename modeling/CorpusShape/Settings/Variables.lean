import CorpusShape.Environment
import CorpusShape.Json.Reader
import CorpusShape.Settings
import CorpusShape.Value.OfJson
/-!
# Settings from variables

A variable sets the setting whose name follows `SPHERE_`, in any case of letters. Settings that are not a single
word are given as JSON. After the name of a group and two low lines, a variable sets one of its members, and goes
before the JSON of the group.
-/
namespace CorpusShape.Settings

/-- How the text of a variable is read. -/
inductive VariableForm where
  | plain
  | json
  /-- JSON, or else the text itself. -/
  | jsonOrPlain
deriving DecidableEq

/-- A setting that variables can set, and the names of its members if they are matched in any case. -/
structure VariableRule where
  name : String
  form : VariableForm
  members : List Field.Name := []

def variableRules : List VariableRule :=
  [⟨"debug", .plain, []⟩, ⟨"include", .json, []⟩, ⟨"exclude", .json, []⟩, ⟨"weights", .json, Weights.names⟩,
    ⟨"alpha", .plain, []⟩, ⟨"thresholds", .jsonOrPlain, []⟩, ⟨"report", .json, ReportSettings.names⟩]

def lowerText (s : String) : String := String.ofList (s.toList.map Char.toLower)

/-- The variables by their names in lower case; of two that differ in case the later one counts. -/
def lowered (env : Environment) : Environment := Table.ofPairs (env.map fun (name, v) => (lowerText name, v))

/-- Sets the member at a path of names. What stands in the way and has no members itself is left. -/
def putMember (value : String) : List String → Entries → Entries
  | [], entries => entries
  | [name], entries => entries.put (.text name) (.text value)
  | name :: rest, entries =>
    match entries.text? name with
    | none => entries.put (.text name) (.map (putMember value rest []))
    | some (.map below) => entries.put (.text name) (.map (putMember value rest below))
    | some _ => entries

/-- The members of a group that variables of their own set. -/
def members (env : Environment) (group : String) : Entries :=
  let start := "sphere_" ++ group ++ "__"
  env.foldl (fun entries (name, value) =>
    if name.startsWith start then putMember value ((name.drop start.length).toString.splitOn "__") entries else entries) []

/-- The spelling of a member's name that the group knows. -/
def memberName (names : List Field.Name) (given : String) : String :=
  let spellings := names.flatMap fun n => (n.short.map fun s => [s]).getD [] ++ [n.full]
  (spellings.find? fun s => lowerText s == lowerText given).getD given

/-- Gives members the names that the group knows. -/
def renameMembers (names : List Field.Name) (entries : Entries) : Entries :=
  entries.foldl (fun done (key, value) =>
    match key with
    | .text name => Entries.put (.text (memberName names name)) value done
    | key => Entries.put key value done) []

/-- The nesting that the JSON of a variable may have. -/
def variableDepth : Nat := 900

/-- What the variables say about a setting: nothing, a value, or a text that cannot be read. -/
def fromVariables? (env : Environment) (rule : VariableRule) : Except String (Option Value) :=
  let raw := env.get? ("sphere_" ++ rule.name)
  let finish : Value → Option Value
    | .null => none
    | .map entries => some (.map (if rule.members.isEmpty then entries else renameMembers rule.members entries))
    | v => some v
  match rule.form, raw with
  | .plain, raw => .ok (raw.map .text)
  | _, none =>
    let found := members env rule.name
    .ok (if found.isEmpty then none else finish (.map found))
  | form, some s =>
    match (Json.readNamed? variableDepth s).bind (Value.ofJson? ⟨false, false⟩) with
    | some (.map entries) => .ok (finish (.map (Entries.merge entries (members env rule.name))))
    | some v => .ok (finish v)
    | none => if form == .jsonOrPlain then .ok (some (.text s)) else .error rule.name

/-- All settings that variables give, or the name of the first that cannot be read. -/
def ofVariables (env : Environment) : Except String Entries := do
  let env := lowered env
  let found ← variableRules.mapM fun rule => do return (rule.name, ← fromVariables? env rule)
  return found.filterMap fun (name, v) => v.map fun v => (.text name, v)

end CorpusShape.Settings
