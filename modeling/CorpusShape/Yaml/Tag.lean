import CorpusShape.Yaml.Token
/-!
# Tags

A tag says what kind of value a node is. A node that has none gets one from its shape; a plain scalar gets
one from its text, which may look like a truth value, a number, a time or nothing.
-/
namespace CorpusShape.Yaml

inductive Tag where
  | null
  | bool
  | int
  | float
  | binary
  | timestamp
  | orderedMap
  | pairs
  | set
  | str
  | seq
  | map
  | merge
  | value
  | unknown
deriving Repr, DecidableEq, Inhabited

namespace Tag

/-- The tags that are known by name. -/
def ofName : String → Tag
  | "tag:yaml.org,2002:null" => .null
  | "tag:yaml.org,2002:bool" => .bool
  | "tag:yaml.org,2002:int" => .int
  | "tag:yaml.org,2002:float" => .float
  | "tag:yaml.org,2002:binary" => .binary
  | "tag:yaml.org,2002:timestamp" => .timestamp
  | "tag:yaml.org,2002:omap" => .orderedMap
  | "tag:yaml.org,2002:pairs" => .pairs
  | "tag:yaml.org,2002:set" => .set
  | "tag:yaml.org,2002:str" => .str
  | "tag:yaml.org,2002:seq" => .seq
  | "tag:yaml.org,2002:map" => .map
  | "tag:yaml.org,2002:merge" => .merge
  | "tag:yaml.org,2002:value" => .value
  | _ => .unknown

/-- Words for truth values: lower case, upper case, or with a capital. -/
def boolWords : List String :=
  ["yes", "Yes", "YES", "no", "No", "NO", "true", "True", "TRUE", "false", "False", "FALSE", "on", "On", "ON", "off",
    "Off", "OFF"]

def nullWords : List String := ["", "~", "null", "Null", "NULL"]

def dropSign : List Char → List Char
  | '-' :: rest => rest
  | '+' :: rest => rest
  | cs => cs

def digitOrLine (c : Char) : Bool := c.isDigit || c == '_'

/-- A part of a number to the base 60 after the first: one digit, or two below sixty. -/
def isSixtieth : List Char → Bool
  | [d] => d.isDigit
  | [t, d] => '0' ≤ t && t ≤ '5' && d.isDigit
  | _ => false

/-- The pieces of a text between colons. -/
def colonParts (cs : List Char) : List (List Char) :=
  cs.foldr (fun c parts => match parts with
    | p :: rest => if c == ':' then [] :: p :: rest else (c :: p) :: rest
    | [] => [[c]]) [[]]

def isInt (cs : List Char) : Bool :=
  match dropSign cs with
  | '0' :: 'b' :: rest => !rest.isEmpty && rest.all fun c => c == '0' || c == '1' || c == '_'
  | '0' :: 'x' :: rest => !rest.isEmpty && rest.all fun c => isHex c || c == '_'
  | '0' :: rest => rest.all fun c => ('0' ≤ c && c ≤ '7') || c == '_'
  | cs =>
    match colonParts cs with
    | first :: rest =>
      (first.head?.any Char.isDigit) && first.all digitOrLine && rest.all isSixtieth
    | [] => false

/-- An exponent with its sign, or nothing. -/
def isExponent : List Char → Bool
  | [] => true
  | e :: sign :: ds => (e == 'e' || e == 'E') && (sign == '-' || sign == '+') && !ds.isEmpty && ds.all Char.isDigit
  | _ => false

/-- Digits, a point, digits and an exponent. -/
def isPointed (cs : List Char) : Bool :=
  cs.head?.any Char.isDigit &&
    match cs.dropWhile digitOrLine with
    | '.' :: rest => isExponent (rest.dropWhile digitOrLine)
    | _ => false

/-- A number to the base 60 with places after its point. -/
def isPointedSixtieths (cs : List Char) : Bool :=
  let whole := cs.takeWhile (· != '.')
  match cs.dropWhile (· != '.') with
  | _ :: places =>
    places.all digitOrLine &&
      match colonParts whole with
      | first :: p :: rest => first.head?.any Char.isDigit && first.all digitOrLine && (p :: rest).all isSixtieth
      | _ => false
  | [] => false

def isFloat (cs : List Char) : Bool :=
  let unsigned := dropSign cs
  isPointed unsigned || isPointedSixtieths unsigned ||
    (match cs with
      | '.' :: d :: rest => d.isDigit && isExponent (rest.dropWhile digitOrLine)
      | _ => false) ||
    [".inf", ".Inf", ".INF"].contains (String.ofList unsigned) || [".nan", ".NaN", ".NAN"].contains (String.ofList cs)

end Tag

/-- The parts of a time as a text gives them. -/
structure TimeText where
  year : List Char
  month : List Char
  day : List Char
  /-- Hours, minutes, seconds and the digits after the point. -/
  clock : Option (List Char × List Char × List Char × List Char) := none
  /-- Whether the zone is behind, its hours and its minutes; `none` inside for the zone of the prime meridian. -/
  zone : Option (Option (Bool × List Char × List Char)) := none
deriving Repr, DecidableEq

namespace TimeText

/-- As many digits as wanted, or one less if the last is optional. -/
def digits? (count : Nat) (lastOptional : Bool) (cs : List Char) : Option (List Char × List Char) :=
  let ds := (cs.take count).takeWhile Char.isDigit
  if ds.length == count || (lastOptional && ds.length + 1 == count) then some (ds, cs.drop ds.length) else none

def char? (c : Char) : List Char → Option (List Char)
  | d :: rest => if c == d then some rest else none
  | [] => none

def isBlank (c : Char) : Bool := c == ' ' || c == '\t'

/-- What may follow the clock: blanks and a zone. -/
def zone? (cs : List Char) : Option (Option (Option (Bool × List Char × List Char))) :=
  if cs.isEmpty then some none
  else
    match cs.dropWhile isBlank with
    | ['Z'] => some (some none)
    | sign :: rest =>
      if sign == '-' || sign == '+' then do
        let (hours, rest) ← digits? 2 true rest
        if rest.isEmpty then return some (some (sign == '-', hours, []))
        let (minutes, rest) ← digits? 2 false (← char? ':' rest)
        if rest.isEmpty then return some (some (sign == '-', hours, minutes)) else none
      else none
    | [] => none

/-- A time: a date, and after a `T` or blanks the clock and a zone. -/
def ofChars? (cs : List Char) : Option TimeText := do
  let (year, rest) ← digits? 4 false cs
  let (month, rest) ← digits? 2 true (← char? '-' rest)
  let (day, rest) ← digits? 2 true (← char? '-' rest)
  match rest with
  | [] => return { year, month, day }
  | c :: more =>
    let rest ← if c == 'T' || c == 't' then some more else if isBlank c then some (more.dropWhile isBlank) else none
    let (hour, rest) ← digits? 2 true rest
    let (minute, rest) ← digits? 2 false (← char? ':' rest)
    let (second, rest) ← digits? 2 false (← char? ':' rest)
    let (places, rest) := match rest with
      | '.' :: rest => (rest.takeWhile Char.isDigit, rest.dropWhile Char.isDigit)
      | rest => ([], rest)
    let zone ← zone? rest
    return { year, month, day, clock := some (hour, minute, second, places), zone }

end TimeText

namespace Tag

/-- Whether a plain text is a time. A date alone is written with all its digits. -/
def isTime (cs : List Char) : Bool :=
  match TimeText.ofChars? cs with
  | some t => t.clock.isSome || cs.length == 10
  | none => false

/-- The tag of a scalar that has none. -/
def ofText (s : String) : Tag :=
  let cs := s.toList
  if boolWords.contains s then .bool
  else if isFloat cs then .float
  else if isInt cs then .int
  else if s == "<<" then .merge
  else if nullWords.contains s then .null
  else if isTime cs then .timestamp
  else if s == "=" then .value
  else .str

end Tag

end CorpusShape.Yaml
