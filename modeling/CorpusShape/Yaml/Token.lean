import CorpusShape.Text.Quoted
import CorpusShape.Yaml.Spot
/-!
# YAML tokens

The tokens of a YAML text, and the reading of tags, anchors and directives.
-/
namespace CorpusShape.Yaml

inductive Token where
  | directive (name : String) (arguments : List String)
  | documentStart
  | documentEnd
  | blockSequence
  | blockMapping
  | blockEnd
  | flowSequence
  | flowSequenceEnd
  | flowMapping
  | flowMappingEnd
  | flowEntry
  | entry
  | key
  | value
  | alias (name : String)
  | anchor (name : String)
  | tag (handle : Option String) (suffix : String)
  | scalar (text : String) (plain : Bool)
deriving Repr, DecidableEq, Inhabited

/-- Why a text is not read. -/
inductive Fault where
  /-- The text is no YAML, or cannot be made a value of. -/
  | malformed
  /-- The text of a value does not have the form that its kind asks for. -/
  | badText (detail : String)
  /-- A number that is too large for a character. -/
  | badCode
  /-- A number that is too large for any code. -/
  | tooLarge
  /-- A word that is no truth value. -/
  | badWord (word : String)
  /-- A number without text. -/
  | noText
  /-- A text that is no time. -/
  | noTime
  /-- A time that is given by a mapping. -/
  | notText
  /-- A number to the base 60 with so many parts that the first counts more than any double. -/
  | beyondDouble
deriving Repr, DecidableEq

namespace Fault

def message : Fault → String
  | .malformed => "malformed"
  | .badText detail => detail
  | .badCode => "chr() arg not in range(0x110000)"
  | .tooLarge => "Python int too large to convert to C int"
  | .badWord word => Text.quoted word
  | .noText => "string index out of range"
  | .noTime => "'NoneType' object has no attribute 'groupdict'"
  | .notText => "expected string or bytes-like object, got 'list'"
  | .beyondDouble => "int too large to convert to float"

end Fault

abbrev Reading (α : Type) := Except Fault α

/-- The digits that a decimal number may have. -/
def digitLimit : Nat := 4300

/-- A decimal number with too many digits. -/
def Fault.tooManyDigits (count : Nat) : Fault :=
  .badText ("Exceeds the limit (4300 digits) for integer string conversion: value has " ++ toString count ++
    " digits; use sys.set_int_max_str_digits() to increase the limit")

def isNameChar (c : Char) : Bool := c.isAlphanum || c == '-' || c == '_'

/-- The rest of a line that may hold a comment only. -/
def ignoredLine (s : Spot) : Reading Spot :=
  let s := s.skip (· == ' ')
  let s := if s.at_ '#' then s.skip (!isBreak ·) else s
  if Spot.lineEnd s.head then .ok s.lineBreak.2 else .error .malformed

def hexValue (ds : List Char) : Nat :=
  ds.foldl (fun n d =>
    16 * n + (if d.isDigit then d.toNat - 48 else if 'a' ≤ d then d.toNat - 87 else d.toNat - 55)) 0

def isHex (c : Char) : Bool := c.isDigit || ('a' ≤ c && c ≤ 'f') || ('A' ≤ c && c ≤ 'F')

/-- Bytes written with percent signs, as characters. -/
def uriEscapes : Nat → List UInt8 → Spot → Reading (List Char × Spot)
  | 0, _, _ => .error .malformed
  | fuel + 1, bytes, s =>
    if s.at_ '%' then
      let ds := (s.rest.drop 1).take 2
      if ds.length == 2 && ds.all isHex then uriEscapes fuel (bytes ++ [UInt8.ofNat (hexValue ds)]) (s.forward 3)
      else .error .malformed
    else
      match Utf8.decode bytes with
      | .ok t => .ok (t.toList, s)
      | .error _ => .error .malformed

def isUriChar (c : Char) : Bool := c.isAlphanum || "-;/?:@&=+$,_.!~*'()[]".toList.contains c

/-- The text of a tag; it may not be empty. -/
def uri (s : Spot) : Reading (String × Spot) :=
  go (s.rest.length + 1) [] s
where
  go : Nat → List Char → Spot → Reading (String × Spot)
    | 0, _, _ => .error .malformed
    | fuel + 1, done, s => do
      let (cs, s) := s.span isUriChar
      if s.at_ '%' then
        let (escaped, s) ← uriEscapes (s.rest.length + 1) [] s
        go fuel (done ++ cs ++ escaped) s
      else if (done ++ cs).isEmpty then .error .malformed
      else return (String.ofList (done ++ cs), s)

/-- The short name of a family of tags, with its exclamation marks. -/
def tagHandle (s : Spot) : Reading (String × Spot) :=
  if !s.at_ '!' then .error .malformed
  else if s.peek 1 == some ' ' then .ok ("!", s.next)
  else
    let (cs, after) := s.next.span isNameChar
    if after.at_ '!' then .ok (String.ofList ('!' :: cs ++ ['!']), after.next) else .error .malformed

/-- A tag. -/
def tagToken (s : Spot) : Reading (Token × Spot) := do
  let (token, s) ← match s.peek 1 with
    | some '<' => do
      let (suffix, s) ← uri (s.forward 2)
      if s.at_ '>' then pure (Token.tag none suffix, s.next) else .error .malformed
    | c =>
      if Spot.blankOrEnd c then pure (Token.tag none "!", s.next)
      else do
        let ahead := (s.rest.drop 1).takeWhile fun c => !Spot.spaceOrEnd (some c)
        let (handle, s) ← if ahead.contains '!' then tagHandle s else pure ("!", s.next)
        let (suffix, s) ← uri s
        pure (Token.tag (some handle) suffix, s)
  if Spot.spaceOrEnd s.head then return (token, s) else .error .malformed

/-- The name of an anchor or of an alias, after its mark. -/
def anchorName (s : Spot) : Reading (String × Spot) :=
  let (cs, s) := s.next.span isNameChar
  let ends := match s.head with
    | some c => Spot.blankOrEnd s.head || "?:,]\x7d%@\x60".toList.contains c
    | none => true
  if cs.isEmpty || !ends then .error .malformed else .ok (String.ofList cs, s)

/-- A directive, after its percent sign. -/
def directive (s : Spot) : Reading (Token × Spot) := do
  let (name, s) := s.next.span isNameChar
  if name.isEmpty || !Spot.spaceOrEnd s.head then .error .malformed
  let number (s : Spot) : Reading (String × Spot) :=
    let (ds, s) := s.span Char.isDigit
    if ds.isEmpty then .error .malformed
    else if digitLimit < ds.length then .error (.tooManyDigits ds.length)
    else .ok (String.ofList ds, s)
  match String.ofList name with
  | "YAML" =>
    let (major, s) ← number (s.skip (· == ' '))
    if !s.at_ '.' then .error .malformed
    let (minor, s) ← number s.next
    if !Spot.spaceOrEnd s.head then .error .malformed
    return (.directive "YAML" [major, minor], ← ignoredLine s)
  | "TAG" =>
    let (handle, s) ← tagHandle (s.skip (· == ' '))
    if !s.at_ ' ' then .error .malformed
    let (start, s) ← uri (s.skip (· == ' '))
    if !Spot.spaceOrEnd s.head then .error .malformed
    return (.directive "TAG" [handle, start], ← ignoredLine s)
  | name => return (.directive name [], ← ignoredLine (s.skip (!isBreak ·)))

end CorpusShape.Yaml
