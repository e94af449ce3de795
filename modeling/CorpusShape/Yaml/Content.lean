import CorpusShape.Text.Base64
import CorpusShape.Yaml.Moment
import CorpusShape.Yaml.Node
/-!
# The values of YAML nodes

A node has the value that its tag asks for. Where a scalar is asked for, a mapping may give one under the sign for a
default value. The entries that a merge key brings go before those of the mapping itself, which replace them. A key
that comes again replaces the value of the first and keeps its place.
-/
namespace CorpusShape.Yaml

/-- The digit to a base. -/
def digitIn? (base : Nat) (c : Char) : Option Nat :=
  let n := if c.isDigit then c.toNat - 48
    else if 'a' ≤ c && c ≤ 'z' then c.toNat - 87
    else if 'A' ≤ c && c ≤ 'Z' then c.toNat - 55
    else base
  if n < base then some n else none

/-- The letter that may mark the digits of a base, after a zero. -/
def baseMark? : Nat → Option Char
  | 2 => some 'b'
  | 8 => some 'o'
  | 16 => some 'x'
  | _ => none

/-- Digits without the mark of their base. -/
def withoutMark (base : Nat) : List Char → List Char
  | '0' :: c :: ds => if baseMark? base == some c.toLower then ds else '0' :: c :: ds
  | ds => ds

/-- An integer to a base, which may be marked. -/
def intIn? (base : Nat) (cs : List Char) : Option Int :=
  let (negative, ds) := Numeric.takeSign (Numeric.trimBlanks cs)
  let ds := withoutMark base ds
  if ds.isEmpty then none
  else
    (ds.foldl (fun n d => n.bind fun n => (digitIn? base d).map (base * n + ·)) (some 0)).map fun n =>
      if negative then -(n : Int) else n

/-- Low lines in a number do not count. -/
def withoutLines (s : String) : List Char := s.toList.filter (· != '_')

/-- An integer: binary, octal, hexadecimal, decimal, or to the base 60. -/
def intOf (s : String) : Reading Int := do
  let cs := withoutLines s
  if cs.isEmpty then .error .noText
  let negative := cs.head? == some '-'
  let unsigned := Tag.dropSign cs
  let n ← match unsigned with
    | ['0'] => pure 0
    | '0' :: 'b' :: ds => inBase 2 ds
    | '0' :: 'x' :: ds => inBase 16 ds
    | '0' :: ds => inBase 8 ('0' :: ds)
    | [] => .error .noText
    | cs => (Tag.colonParts cs).foldlM (fun n part => (inBase 10 part).map (60 * n + ·)) 0
  return if negative then -n else n
where
  inBase (base : Nat) (ds : List Char) : Reading Int :=
    match intIn? base ds with
    | some n =>
      let count := (ds.filter Char.isDigit).length
      if base == 10 && digitLimit < count then .error (.tooManyDigits count) else .ok n
    | none => .error (.badText ("invalid literal for int() with base " ++ toString base ++ ": " ++
        Text.quoted (String.ofList ds)))

/-- A double. -/
def floatOf (s : String) : Reading Float := do
  let cs := (withoutLines s).map Char.toLower
  if cs.isEmpty then .error .noText
  let negative := cs.head? == some '-'
  let unsigned := Tag.dropSign cs
  let x ← match String.ofList unsigned with
    | ".inf" => pure Double.positiveInfinity
    | ".nan" => pure Double.nan
    | _ =>
      if unsigned.contains ':' then
        do sixtieths (← (Tag.colonParts unsigned).mapM part).reverse 1 0
      else part unsigned
  return if negative then -1 * x else x
where
  part (cs : List Char) : Reading Float :=
    match Numeric.plainNumber? (Numeric.trimBlanks cs) with
    | some x => .ok x
    | none => .error (.badText ("could not convert string to float: " ++ Text.quoted (String.ofList cs)))
  /-- The parts from the last on, each sixty times as much as the one after it. -/
  sixtieths : List Float → Nat → Float → Reading Float
    | [], _, sum => .ok sum
    | x :: rest, unit, sum =>
      match Double.ofInt? unit with
      | some u => sixtieths rest (60 * unit) (sum + x * u)
      | none => .error .beyondDouble

def boolOf (s : String) : Reading Bool :=
  let word := String.ofList (s.toList.map Char.toLower)
  if ["yes", "true", "on"].contains word then .ok true
  else if ["no", "false", "off"].contains word then .ok false
  else .error (.badWord word)

def timeOf (s : String) : Reading Value :=
  match TimeText.ofChars? s.toList with
  | none => .error .noTime
  | some t =>
    let m := Moment.ofText t
    match m.problem? with
    | some problem => .error (.badText problem)
    | none => .ok m.toValue

def bytesOf (s : String) : Reading Value :=
  if s.toList.any (0x80 ≤ ·.toNat) then .error .malformed
  else
    match Text.ofBase64? s.toList with
    | some bytes => .ok (.other "bytes" (Text.quotedBytes bytes))
    | none => .error .malformed

/-- The value of a scalar. -/
def scalarValue : Tag → String → Reading Value
  | .null, _ => .ok .null
  | .bool, s => (boolOf s).map .bool
  | .int, s => (intOf s).map .int
  | .float, s => (floatOf s).map .float
  | .binary, s => bytesOf s
  | .timestamp, s => timeOf s
  | .str, s => .ok (.text s)
  | _, _ => .error .malformed

/-- Whether a value may be a key. -/
def isKey : Value → Bool
  | .list _ => false
  | .map _ => false
  | .other "set" _ => false
  | .other "list" _ => false
  | .other "dict" _ => false
  | _ => true

/-- A mapping of entries of which later ones replace earlier ones of the same key. -/
def collect (entries : Entries) : Entries := entries.foldl (fun es (k, v) => es.put k v) []

/-- A set of the keys of a mapping. -/
def setShown (entries : Entries) : String :=
  if entries.isEmpty then "set()"
  else "\x7b" ++ String.intercalate ", " (entries.map fun (k, _) => k.shown) ++ "\x7d"

/-- A pair of two values. -/
def pairValue (k v : Value) : Value := .other "tuple" ("(" ++ k.shown ++ ", " ++ v.shown ++ ")")

namespace Node

/-- Whether a node has a tag. -/
def hasTag (t : Tag) : Node → Bool
  | .scalar tag _ => tag == t
  | .sequence tag _ => tag == t
  | .mapping tag _ => tag == t
  | .within _ => false

/-- Whether a key brings in the entries of other mappings. -/
def isMerge (n : Node) : Bool := n.hasTag .merge

mutual
/-- The text of a scalar, or of what a mapping has under the sign for a default value. -/
def text : Node → Reading String
  | .scalar _ s => .ok s
  | .mapping _ entries => defaultText entries
  | .sequence _ _ => .error .malformed
  | .within _ => .error .malformed

def defaultText : List (Node × Node) → Reading String
  | [] => .error .malformed
  | (k, v) :: rest => if k.hasTag .value then text v else defaultText rest
end

mutual
def toValue : Node → Reading Value
  | .scalar tag s => scalarValue tag s
  | .sequence .seq items => (toItems items).map .list
  | .sequence .orderedMap items => (toPairs items).map .list
  | .sequence .pairs items => (toPairs items).map .list
  | .sequence _ _ => .error .malformed
  | .mapping .map entries => (toEntries entries).map fun (merged, own) => .map (collect (merged ++ own))
  | .mapping .set entries =>
    (toEntries entries).map fun (merged, own) => .other "set" (setShown (collect (merged ++ own)))
  | .mapping .timestamp entries => do
    let _ ← defaultText entries
    .error .notText
  | .mapping tag entries => do scalarValue tag (← defaultText entries)
  | .within true => .ok (.other "dict" "\x7b...\x7d")
  | .within false => .ok (.other "list" "[...]")

def toItems : List Node → Reading (List Value)
  | [] => .ok []
  | n :: rest => do
    let v ← toValue n
    let vs ← toItems rest
    return v :: vs

/-- Mappings of one entry each, as pairs. -/
def toPairs : List Node → Reading (List Value)
  | [] => .ok []
  | .mapping _ [(k, v)] :: rest => do
    let k ← toValue k
    let v ← toValue v
    let vs ← toPairs rest
    return pairValue k v :: vs
  | _ :: _ => .error .malformed

/-- The entries that merge keys bring, and the entries of the mapping itself. -/
def toEntries : List (Node × Node) → Reading (Entries × Entries)
  | [] => .ok ([], [])
  | (k, v) :: rest =>
    if k.isMerge then do
      let brought ← toMerged v
      let (merged, own) ← toEntries rest
      return (brought ++ merged, own)
    else do
      let key ← toKey k
      if !isKey key then .error .malformed
      let value ← toValue v
      let (merged, own) ← toEntries rest
      return (merged, (key, value) :: own)

/-- A key. The sign for a default value is a plain text there. -/
def toKey : Node → Reading Value
  | .scalar .value s => .ok (.text s)
  | .mapping .value entries => (defaultText entries).map .text
  | n => toValue n

/-- The entries of a mapping, or of several, the first of which goes before the others. -/
def toMerged : Node → Reading Entries
  | .mapping _ entries => (toEntries entries).map fun (merged, own) => merged ++ own
  | .sequence _ items => toMergedAll items
  | _ => .error .malformed

def toMergedAll : List Node → Reading Entries
  | [] => .ok []
  | .mapping _ entries :: rest => do
    let (merged, own) ← toEntries entries
    let later ← toMergedAll rest
    return later ++ (merged ++ own)
  | _ :: _ => .error .malformed
end

end Node

/-- The value of a text; an empty one is null. -/
def load (bytes : List UInt8) : Reading Value :=
  match charsOf? bytes with
  | none => .error .malformed
  | some cs => do
    let ts ← tokens cs
    match ← Node.ofTokens ts with
    | some node => node.toValue
    | none => return .null

end CorpusShape.Yaml
