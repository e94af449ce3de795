import CorpusShape.Json.Writer
import CorpusShape.Report.Json
import CorpusShape.Table
import CorpusShape.Value
/-!
# Log events

What a run tells about itself: events with a level, the part of the program that they come from, and named values.
An event is written as one JSON object or as one line of text.
-/
namespace CorpusShape

inductive Level where
  | debug
  | info
  | warning
  | error
  | critical
deriving Repr, DecidableEq, Inhabited

namespace Level

def text : Level → String
  | .debug => "debug"
  | .info => "info"
  | .warning => "warning"
  | .error => "error"
  | .critical => "critical"

end Level

structure Event where
  level : Level
  name : String
  component : Option String := none
  fields : Table Value := []
deriving Repr, Inhabited

namespace Event

/-- Whether an event is told. -/
def isShown (debug : Bool) (e : Event) : Bool := debug || e.level != .debug

/-- The event with a value that holds for all events around it; its own values go before that. -/
def within (name : String) (value : Value) (e : Event) : Event :=
  { e with fields := e.fields.foldl (fun t p => t.put p.1 p.2) [(name, value)] }

/-- All that an event says, apart from its name and level, by name. -/
def details (e : Event) : Table Value :=
  e.fields.foldl (fun t p => t.put p.1 p.2) (match e.component with
    | some c => [("component", .text c)]
    | none => [])

/-- All that an event says, by name. -/
def record (e : Event) : Table Value :=
  (e.details.put "event" (.text e.name)).put "level" (.text e.level.text)

end Event

mutual
/-- A value as JSON. A double that is not finite is null. -/
def Value.toJson : Value → Json
  | .null => .null
  | .bool b => .bool b
  | .int i => .ofInt i
  | .float x => Report.jsonFloat x
  | .text s => .string s
  | .list items => .array (Value.itemsToJson items)
  | .map entries => .object (Value.entriesToJson entries)
  | .other _ shown => .string shown

def Value.itemsToJson : List Value → List Json
  | [] => []
  | v :: rest => v.toJson :: Value.itemsToJson rest

def Value.entriesToJson : List (Value × Value) → List (String × Json)
  | [] => []
  | (.text k, v) :: rest => (k, v.toJson) :: Value.entriesToJson rest
  | (k, v) :: rest => (k.shown, v.toJson) :: Value.entriesToJson rest
end

namespace Event

/-- An event as a JSON object on one line. -/
def jsonLine (e : Event) : String := (Json.object (e.record.map fun (name, v) => (name, v.toJson))).compact

/-- A text that needs no quotes is shown as it is. -/
def plainValue : Value → String
  | .text s =>
    if s.toList.any fun c => [' ', '\t', '=', '\r', '\n', '"', '\''].contains c then Text.quoted s else s
  | v => v.shown

def padded (width : Nat) (s : String) : String := s ++ String.ofList (List.replicate (width - s.length) ' ')

/-- An event as a line of text: its level, its name, and its values in the order of their names. -/
def textLine (e : Event) : String :=
  let details := e.details.mergeSort fun a b => a.1 ≤ b.1
  let start := "[" ++ padded 9 e.level.text ++ "] "
  if details.isEmpty then start ++ e.name
  else
    start ++ padded 30 e.name ++ " " ++
      String.intercalate " " (details.map fun (name, v) => name ++ "=" ++ plainValue v)

end Event

end CorpusShape
