import CorpusShape.Json.Basic
import CorpusShape.Numeric.Literal
import CorpusShape.Value
/-!
# Values from JSON

A number without point and exponent is an integer. A reader of configuration files keeps integers of at
most 64 bits and takes larger ones for doubles, and refuses doubles that are too large.
-/
namespace CorpusShape.Value

/-- What becomes of numbers. -/
structure NumberRule where
  /-- Integers that do not fit 64 bits become doubles. -/
  narrow : Bool
  /-- Doubles that are too large are refused. -/
  finite : Bool

/-- Whether a number is written as an integer. -/
def isWholeLiteral (cs : List Char) : Bool := cs.all fun c => c.isDigit || c == '-'

def ofNumber? (rule : NumberRule) (literal : String) : Option Value :=
  let cs := literal.toList
  let float : Option Value := (Numeric.plainNumber? cs).bind fun x =>
    if rule.finite && !Double.isFinite x then none else some (.float x)
  if isWholeLiteral cs then
    let (negative, ds) := Numeric.takeSign cs
    let n := Numeric.natOfDigits ds
    let i : Int := if negative then -(n : Int) else n
    if rule.narrow && !(-(twoTo 63 : Int) ≤ i && i < twoTo 64) then float else some (.int i)
  else float

mutual
def ofJson? (rule : NumberRule) : Json → Option Value
  | .null => some .null
  | .bool b => some (.bool b)
  | .number literal => ofNumber? rule literal
  | .string s => some (.text s)
  | .array items => (ofItems? rule items).map .list
  | .object fields => (ofFields? rule [] fields).map .map

def ofItems? (rule : NumberRule) : List Json → Option (List Value)
  | [] => some []
  | j :: rest =>
    match ofJson? rule j, ofItems? rule rest with
    | some v, some vs => some (v :: vs)
    | _, _ => none

/-- The last value of a name is kept, in the place of the first. -/
def ofFields? (rule : NumberRule) (done : Entries) : List (String × Json) → Option Entries
  | [] => some done
  | (name, j) :: rest =>
    match ofJson? rule j with
    | some v => ofFields? rule (done.put (.text name) v) rest
    | none => none
end

end CorpusShape.Value
