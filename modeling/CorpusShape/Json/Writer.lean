import CorpusShape.Json.Basic

/-!
# Writing JSON

Strings keep every character above the controls as it is. A value is written on one line, or with each
item and field on a line of its own.
-/
namespace CorpusShape.Json

/-- A hexadecimal digit. -/
def hexDigit (n : Nat) : Char :=
  if n < 10 then Char.ofNat ('0'.toNat + n) else Char.ofNat ('a'.toNat + (n - 10))

/-- A character as it stands in a string. -/
def escapedChar (c : Char) : List Char :=
  match c with
  | '"' => ['\\', '"']
  | '\\' => ['\\', '\\']
  | '\x08' => ['\\', 'b']
  | '\t' => ['\\', 't']
  | '\n' => ['\\', 'n']
  | '\x0c' => ['\\', 'f']
  | '\r' => ['\\', 'r']
  | _ =>
    if c.val < 0x20 then ['\\', 'u', '0', '0', hexDigit (c.toNat / 16), hexDigit (c.toNat % 16)]
    else [c]

/-- A string in quotes. -/
def quoted (s : String) : String :=
  "\"" ++ String.ofList (s.toList.flatMap escapedChar) ++ "\""

mutual
/-- A value on one line, without blanks. -/
def compact : Json → String
  | .null => "null"
  | .bool true => "true"
  | .bool false => "false"
  | .number literal => literal
  | .string s => quoted s
  | .array items => "[" ++ String.intercalate "," (compactItems items) ++ "]"
  | .object fields => "\x7b" ++ String.intercalate "," (compactFields fields) ++ "\x7d"

def compactItems : List Json → List String
  | [] => []
  | j :: rest => compact j :: compactItems rest

def compactFields : List (String × Json) → List String
  | [] => []
  | (name, j) :: rest => (quoted name ++ ":" ++ compact j) :: compactFields rest
end

/-- Parts on lines of their own between brackets, the closing one indented by `indent`. -/
def blockOf (indent : String) (opening closing : String) : List String → String
  | [] => opening ++ closing
  | parts =>
    opening ++ "\n" ++ String.intercalate ",\n" (parts.map fun p => indent ++ "  " ++ p) ++ "\n" ++
      indent ++ closing

mutual
/-- A value with two blanks of indentation for each level. -/
def indented (indent : String) : Json → String
  | .null => "null"
  | .bool true => "true"
  | .bool false => "false"
  | .number literal => literal
  | .string s => quoted s
  | .array items => blockOf indent "[" "]" (indentedItems (indent ++ "  ") items)
  | .object fields => blockOf indent "\x7b" "\x7d" (indentedFields (indent ++ "  ") fields)

def indentedItems (indent : String) : List Json → List String
  | [] => []
  | j :: rest => indented indent j :: indentedItems indent rest

def indentedFields (indent : String) : List (String × Json) → List String
  | [] => []
  | (name, j) :: rest => (quoted name ++ ": " ++ indented indent j) :: indentedFields indent rest
end

end CorpusShape.Json
