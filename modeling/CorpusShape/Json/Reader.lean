import CorpusShape.Json.Basic

/-!
# Reading JSON

The strict grammar: no comments, no trailing commas, no control characters in strings, and every half of a
surrogate pair next to the other half. Numbers have no names, unless a reader asks for them.
-/
namespace CorpusShape.Json

/-- The blanks between tokens. -/
def isJsonBlank (c : Char) : Bool := c == ' ' || c == '\t' || c == '\n' || c == '\r'

def skipBlanks (cs : List Char) : List Char := cs.dropWhile isJsonBlank

/-- The value of a hexadecimal digit. -/
def hexValue? (c : Char) : Option Nat :=
  if '0' ≤ c && c ≤ '9' then some (c.toNat - '0'.toNat)
  else if 'a' ≤ c && c ≤ 'f' then some (c.toNat - 'a'.toNat + 10)
  else if 'A' ≤ c && c ≤ 'F' then some (c.toNat - 'A'.toNat + 10)
  else none

/-- Four hexadecimal digits. -/
def hex4? : List Char → Option (Nat × List Char)
  | a :: b :: c :: d :: rest =>
    match hexValue? a, hexValue? b, hexValue? c, hexValue? d with
    | some a, some b, some c, some d => some (((a * 16 + b) * 16 + c) * 16 + d, rest)
    | _, _, _, _ => none
  | _ => none

/-- The character of a `\u` escape whose digits start here, with the second half where there is one. -/
def unicodeEscape? (cs : List Char) : Option (Char × List Char) :=
  match hex4? cs with
  | none => none
  | some (n, rest) =>
    if 0xD800 ≤ n && n < 0xDC00 then
      match rest with
      | '\\' :: 'u' :: rest' =>
        match hex4? rest' with
        | some (m, rest'') =>
          if 0xDC00 ≤ m && m < 0xE000 then
            some (Char.ofNat (0x10000 + (n - 0xD800) * 0x400 + (m - 0xDC00)), rest'')
          else none
        | none => none
      | _ => none
    else if 0xDC00 ≤ n && n < 0xE000 then none
    else some (Char.ofNat n, rest)

/-- The character that a letter stands for after a backslash. -/
def plainEscape? (c : Char) : Option Char :=
  match c with
  | '"' => some '"'
  | '\\' => some '\\'
  | '/' => some '/'
  | 'b' => some '\x08'
  | 'f' => some '\x0c'
  | 'n' => some '\n'
  | 'r' => some '\r'
  | 't' => some '\t'
  | _ => none

/-- The characters of a string up to its closing quote, newest first before. -/
def stringTail : Nat → List Char → List Char → Option (String × List Char)
  | 0, _, _ => none
  | fuel + 1, acc, cs =>
    match cs with
    | [] => none
    | '"' :: rest => some (String.ofList acc.reverse, rest)
    | '\\' :: 'u' :: rest =>
      match unicodeEscape? rest with
      | some (c, rest') => stringTail fuel (c :: acc) rest'
      | none => none
    | '\\' :: e :: rest =>
      match plainEscape? e with
      | some c => stringTail fuel (c :: acc) rest
      | none => none
    | c :: rest => if c.val < 0x20 || c == '\\' then none else stringTail fuel (c :: acc) rest

/-- Digits, at least one. -/
def digits? (cs : List Char) : Option (List Char × List Char) :=
  match cs.takeWhile Char.isDigit with
  | [] => none
  | ds => some (ds, cs.dropWhile Char.isDigit)

/-- The whole part of a number: a zero alone, or digits that do not start with one. -/
def wholePart? (cs : List Char) : Option (List Char × List Char) :=
  match cs with
  | '0' :: rest => some (['0'], rest)
  | _ => digits? cs

/-- The part after the point. -/
def fraction? (cs : List Char) : Option (List Char × List Char) :=
  match cs with
  | '.' :: rest => (digits? rest).map fun r => ('.' :: r.1, r.2)
  | _ => some ([], cs)

/-- The exponent. -/
def exponent? (cs : List Char) : Option (List Char × List Char) :=
  match cs with
  | e :: rest =>
    if e == 'e' || e == 'E' then
      match rest with
      | s :: rest' =>
        if s == '+' || s == '-' then (digits? rest').map fun r => (e :: s :: r.1, r.2)
        else (digits? rest).map fun r => (e :: r.1, r.2)
      | [] => none
    else some ([], cs)
  | [] => some ([], cs)

/-- A number, as it is written. -/
def number? (cs : List Char) : Option (String × List Char) := do
  let (sign, cs) := match cs with
    | '-' :: rest => (['-'], rest)
    | _ => ([], cs)
  let (whole, cs) ← wholePart? cs
  let (part, cs) ← fraction? cs
  let (power, cs) ← exponent? cs
  return (String.ofList (sign ++ whole ++ part ++ power), cs)

/-- A number that has a name, with the name for its text. -/
def namedNumber? : List Char → Option (String × List Char)
  | 'N' :: 'a' :: 'N' :: rest => some ("NaN", rest)
  | 'I' :: 'n' :: 'f' :: 'i' :: 'n' :: 'i' :: 't' :: 'y' :: rest => some ("Infinity", rest)
  | '-' :: 'I' :: 'n' :: 'f' :: 'i' :: 'n' :: 'i' :: 't' :: 'y' :: rest => some ("-Infinity", rest)
  | _ => none

mutual
/-- A value that nests at most `depth` deep. Numbers that have names are read only if `named`. -/
def value? (named : Bool) : Nat → Nat → List Char → Option (Json × List Char)
  | 0, _, _ => none
  | fuel + 1, depth, cs =>
    match skipBlanks cs with
    | 'n' :: 'u' :: 'l' :: 'l' :: rest => some (.null, rest)
    | 't' :: 'r' :: 'u' :: 'e' :: rest => some (.bool true, rest)
    | 'f' :: 'a' :: 'l' :: 's' :: 'e' :: rest => some (.bool false, rest)
    | '"' :: rest => (stringTail (rest.length + 1) [] rest).map fun r => (.string r.1, r.2)
    | '[' :: rest =>
      if depth = 0 then none
      else
        match skipBlanks rest with
        | ']' :: rest' => some (.array [], rest')
        | rest' => (items? named fuel (depth - 1) [] rest').map fun r => (.array r.1, r.2)
    | '\x7b' :: rest =>
      if depth = 0 then none
      else
        match skipBlanks rest with
        | '\x7d' :: rest' => some (.object [], rest')
        | rest' => (fields? named fuel (depth - 1) [] rest').map fun r => (.object r.1, r.2)
    | rest =>
      ((if named then namedNumber? rest else none) <|> number? rest).map fun r => (.number r.1, r.2)

/-- The items of an array up to its closing bracket, newest first before. -/
def items? (named : Bool) : Nat → Nat → List Json → List Char → Option (List Json × List Char)
  | 0, _, _, _ => none
  | fuel + 1, depth, acc, cs =>
    match value? named fuel depth cs with
    | none => none
    | some (v, rest) =>
      match skipBlanks rest with
      | ',' :: rest' => items? named fuel depth (v :: acc) rest'
      | ']' :: rest' => some ((v :: acc).reverse, rest')
      | _ => none

/-- The fields of an object up to its closing brace, newest first before. -/
def fields? (named : Bool) : Nat → Nat → List (String × Json) → List Char → Option (List (String × Json) × List Char)
  | 0, _, _, _ => none
  | fuel + 1, depth, acc, cs =>
    match skipBlanks cs with
    | '"' :: rest =>
      match stringTail (rest.length + 1) [] rest with
      | none => none
      | some (name, rest) =>
        match skipBlanks rest with
        | ':' :: rest =>
          match value? named fuel depth rest with
          | none => none
          | some (v, rest) =>
            match skipBlanks rest with
            | ',' :: rest' => fields? named fuel depth ((name, v) :: acc) rest'
            | '\x7d' :: rest' => some (((name, v) :: acc).reverse, rest')
            | _ => none
        | _ => none
    | _ => none
end

/-- The value that a text holds, nested at most `depth` deep. -/
def readWith? (named : Bool) (depth : Nat) (text : String) : Option Json :=
  let cs := text.toList
  match value? named (2 * cs.length + 2) depth cs with
  | some (v, rest) => if (skipBlanks rest).isEmpty then some v else none
  | none => none

/-- The value that a text holds by the strict grammar. -/
def read? (depth : Nat) (text : String) : Option Json := readWith? false depth text

/-- The value that a text holds, where infinities and what is not a number have names. -/
def readNamed? (depth : Nat) (text : String) : Option Json := readWith? true depth text

end CorpusShape.Json
