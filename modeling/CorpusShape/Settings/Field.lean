import CorpusShape.Numeric.Literal
import CorpusShape.Settings.Problem
/-!
# Reading settings

How single values are read. A number may be given as a text or a truth value, and a truth value as a word
or a number; a text must be a text. A record is read from a mapping; a field may be given by its short name
or by its full one.
-/
namespace CorpusShape.Field

/-- A number. -/
def number : Value → Checked Float
  | .float x => .ok x
  | .bool b => .ok (if b then 1 else 0)
  | .int i =>
    match Double.ofInt? i with
    | some x => .ok x
    | none => .one .notNumber (.int i)
  | .text s =>
    match Numeric.number? s with
    | some x => .ok x
    | none => .one .numberText (.text s)
  | v => .one .notNumber v

/-- A number greater than zero. -/
def positive (v : Value) : Checked Float :=
  (number v).andThen fun x => if Double.less 0 x then .ok x else .one .notPositive v

/-- The truth value of a word, in any case of letters. -/
def truthOfWord? (s : String) : Option Bool :=
  let word := String.ofList (s.toList.map Char.toLower)
  if ["1", "t", "y", "on", "yes", "true"].contains word then some true
  else if ["0", "f", "n", "no", "off", "false"].contains word then some false
  else none

/-- A truth value. -/
def truth (v : Value) : Checked Bool :=
  let ofWhole (i : Int) : Checked Bool :=
    if i == 0 then .ok false
    else if i == 1 then .ok true
    else if -(twoTo 63 : Int) ≤ i && i < twoTo 63 then .one .truthText v
    else .one .notTruth v
  match v with
  | .bool b => .ok b
  | .text s =>
    match truthOfWord? s with
    | some b => .ok b
    | none => .one .truthText v
  | .int i => ofWhole i
  | .float _ =>
    match v.whole? with
    | some i => ofWhole i
    | none => .one .notTruth v
  | _ => .one .notTruth v

def text : Value → Checked String
  | .text s => .ok s
  | v => .one .notText v

def optional {α : Type} (read : Value → Checked α) : Value → Checked (Option α)
  | .null => .ok none
  | v => (read v).map some

/-- A list of texts. A single text stands for the list of it, and null for the empty list. -/
def texts : Value → Checked (List String)
  | .null => .ok []
  | .text s => .ok [s]
  | .list items => .all (items.mapIdx fun i v => (text v).under (.index i))
  | v => .one .notList v

/-- A field of a record: its name, and a shorter name that goes before it. -/
structure Name where
  full : String
  short : Option String := none

namespace Name

/-- The name by which problems of the field are known. -/
def shown (n : Name) : String := n.short.getD n.full

/-- The name under which the field is given. -/
def given? (n : Name) (entries : Entries) : Option String :=
  match n.short with
  | some short =>
    if (entries.text? short).isSome then some short
    else if (entries.text? n.full).isSome then some n.full else none
  | none => if (entries.text? n.full).isSome then some n.full else none

/-- The value of a field, or `default` if it is not given. -/
def read {α : Type} (n : Name) (entries : Entries) (reader : Value → Checked α) (default : α) : Checked α :=
  match (n.given? entries).bind entries.text? with
  | some v => (reader v).under (.name n.shown)
  | none => .ok default

end Name

/-- The problems of the entries that are not the value of a field. -/
def unknown (names : List Name) (entries : Entries) : Checked Unit :=
  let given := names.filterMap fun n => n.given? entries
  let problems := entries.filterMap fun (key, v) =>
    match key with
    | .text s => if given.contains s then none else some ⟨[.name s], .unknownName, v⟩
    | _ => some ⟨[Step.ofKey key], .nameNotText, key⟩
  if problems.isEmpty then .ok () else .bad problems

/-- The entries of a mapping, for the record of the given name. -/
def mapping (model : String) : Value → Checked Entries
  | .map entries => .ok entries
  | v => .one (.notMapping model) v

end CorpusShape.Field
