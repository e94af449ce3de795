import CorpusShape.Value
/-!
# Problems of configuration values

What is wrong with a value, and where it stands. A reading that fails gives all its problems, in the order
in which the parts are read.
-/
namespace CorpusShape

/-- A step from a value to a part of it. -/
inductive Step where
  | name (s : String)
  | index (i : Int)
deriving Repr, DecidableEq

namespace Step

def text : Step → String
  | .name s => s
  | .index i => toString i

/-- The step to the value at a key. -/
def ofKey : Value → Step
  | .text s => .name s
  | .bool b => .index (if b then 1 else 0)
  | .int i => .index i
  | key => .name key.shown

end Step

inductive ProblemKind where
  | notPositive
  | numberText
  | notNumber
  | truthText
  | notTruth
  | notText
  | notList
  | unknownName
  | nameNotText
  | notStyle
  | notMapping (model : String)
  | belowZero
  | aboveOne
deriving Repr, DecidableEq

namespace ProblemKind

/-- The short name of a kind of problem. -/
def code : ProblemKind → String
  | .notPositive => "greater_than"
  | .numberText => "float_parsing"
  | .notNumber => "float_type"
  | .truthText => "bool_parsing"
  | .notTruth => "bool_type"
  | .notText => "string_type"
  | .notList => "list_type"
  | .unknownName => "extra_forbidden"
  | .nameNotText => "invalid_key"
  | .notStyle => "enum"
  | .notMapping _ => "model_type"
  | .belowZero => "greater_than_equal"
  | .aboveOne => "less_than_equal"

def message : ProblemKind → String
  | .notPositive => "Input should be greater than 0"
  | .numberText => "Input should be a valid number, unable to parse string as a number"
  | .notNumber => "Input should be a valid number"
  | .truthText => "Input should be a valid boolean, unable to interpret input"
  | .notTruth => "Input should be a valid boolean"
  | .notText => "Input should be a valid string"
  | .notList => "Input should be a valid list"
  | .unknownName => "Extra inputs are not permitted"
  | .nameNotText => "Keys should be strings"
  | .notStyle => "Input should be 'full' or 'simple'"
  | .notMapping model => "Input should be a valid dictionary or instance of " ++ model
  | .belowZero => "Input should be greater than or equal to 0"
  | .aboveOne => "Input should be less than or equal to 1"

end ProblemKind

/-- A value that a setting does not take. -/
structure Problem where
  path : List Step
  kind : ProblemKind
  input : Value
deriving Repr

namespace Problem

/-- The problem seen from a step further out. -/
def under (step : Step) (p : Problem) : Problem := { p with path := step :: p.path }

/-- The longest text of a value that is shown whole. -/
def inputLimit : Nat := 50

/-- A value in a message; the middle of a long one is left out. -/
def shownInput (v : Value) : String :=
  let cs := v.shown.toList
  if cs.length ≤ inputLimit then String.ofList cs
  else String.ofList (cs.take 25) ++ "..." ++ String.ofList (cs.drop (cs.length - 24))

def text (p : Problem) : String :=
  ".".intercalate (p.path.map Step.text) ++ "\n  " ++ p.kind.message ++ " [type=" ++ p.kind.code ++
    ", input_value=" ++ shownInput p.input ++ ", input_type=" ++ p.input.kind ++ "]"

end Problem

/-- A value that was read, or the problems that were met. -/
inductive Checked (α : Type) where
  | ok (a : α)
  | bad (problems : List Problem)
deriving Repr

namespace Checked

def problems {α : Type} : Checked α → List Problem
  | .ok _ => []
  | .bad ps => ps

def map {α β : Type} (f : α → β) : Checked α → Checked β
  | .ok a => .ok (f a)
  | .bad ps => .bad ps

/-- Reads both, and gives the problems of both. -/
def apply {α β : Type} : Checked (α → β) → Checked α → Checked β
  | .ok f, c => c.map f
  | .bad ps, c => .bad (ps ++ c.problems)

instance : Applicative Checked where
  pure := .ok
  seq f x := apply f (x ())

def one {α : Type} (kind : ProblemKind) (input : Value) : Checked α := .bad [⟨[], kind, input⟩]

/-- The reading of a part, seen from the whole. -/
def under {α : Type} (step : Step) : Checked α → Checked α
  | .ok a => .ok a
  | .bad ps => .bad (ps.map (Problem.under step))

/-- Goes on with a value that was read. -/
def andThen {α β : Type} : Checked α → (α → Checked β) → Checked β
  | .ok a, f => f a
  | .bad ps, _ => .bad ps

/-- All readings of a list. -/
def all {α : Type} : List (Checked α) → Checked (List α)
  | [] => .ok []
  | c :: rest => apply (c.map List.cons) (all rest)

end Checked

end CorpusShape
