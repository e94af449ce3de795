import CorpusShape.Syntax.Rule

/-!
# Lexemes

Words, punctuation and numbers. A lexeme is looked for after blanks and comments. Which words are
keywords depends on the place, so the rules that read a name say which words they leave alone.
-/
namespace CorpusShape.Syntax

/-- The characters that never stand in a word, blanks apart. -/
def isMark (c : Char) : Bool :=
  c.val ≤ 0x1F || ":;`\"'@#.,|^&<=>+-*/\\%?!~()[]\x7b\x7d".toList.contains c

def isWordPart (c : Char) : Bool := !isMark c && !isBlank c

def isWordStart (c : Char) : Bool := isWordPart c && !c.isDigit

def isHexDigit (c : Char) : Bool :=
  c.isDigit || ('a' ≤ c && c ≤ 'f') || ('A' ≤ c && c ≤ 'F')

def isOctalDigit (c : Char) : Bool := '0' ≤ c && c ≤ '7'

def isBinaryDigit (c : Char) : Bool := c == '0' || c == '1'

namespace Cursor

/-- The place after a `\u` escape that starts here, of four digits or of any number in braces. -/
def afterUnicodeEscape? (c : Cursor) : Option Cursor :=
  match c.rest with
  | '\\' :: 'u' :: '\x7b' :: rest =>
    let n := (rest.takeWhile isHexDigit).length
    match n, rest.drop n with
    | 0, _ => none
    | _, '\x7d' :: _ => some (c.advanceBy (n + 4))
    | _, _ => none
  | '\\' :: 'u' :: a :: b :: d :: e :: _ =>
    if isHexDigit a && isHexDigit b && isHexDigit d && isHexDigit e then some (c.advanceBy 6)
    else none
  | _ => none

/-- The place after the characters of a word that has started. -/
def afterWordParts (c : Cursor) : Cursor :=
  let d := c.skipWhile isWordPart
  match d.afterUnicodeEscape? with
  | none => d
  | some e => if _h : e.left < c.left then afterWordParts e else e
termination_by c.left

/-- The place after the word that starts exactly here. -/
def afterWord? (c : Cursor) : Option Cursor :=
  match c.peek? with
  | none => none
  | some ch =>
    if isWordStart ch then some c.advance.afterWordParts
    else if ch == '\\' then c.afterUnicodeEscape?.map afterWordParts
    else none

/-- The next word: where it starts, its text, and the place after it. -/
def nextWord? (c : Cursor) : Option (Cursor × String × Cursor) :=
  let d := c.skipTrivia
  d.afterWord?.map fun e => (d, d.textTo e, e)

/-- The place after digits that may be divided by single underscores. -/
def afterDigits (p : Char → Bool) (c : Cursor) : Cursor :=
  let d := c.skipWhile p
  if d.left == c.left then c
  else
    match d.rest with
    | '_' :: ch :: _ =>
      if p ch then
        if _h : d.advance.left < c.left then afterDigits p d.advance else d
      else d
    | _ => d
termination_by c.left

/-- The place after an exponent, or `c` itself if none starts there. -/
def afterExponent (c : Cursor) : Cursor :=
  match c.rest with
  | e :: rest =>
    if e == 'e' || e == 'E' then
      match rest with
      | s :: ch :: _ =>
        if (s == '+' || s == '-') && ch.isDigit then (c.advanceBy 2).afterDigits Char.isDigit
        else if s.isDigit then c.advance.afterDigits Char.isDigit
        else c
      | [s] => if s.isDigit then c.advance.afterDigits Char.isDigit else c
      | [] => c
    else c
  | [] => c

/-- The place after a digit string with a marked base, such as `0x1F`. -/
def afterBased? (p : Char → Bool) (c : Cursor) : Option Cursor :=
  let d := c.advanceBy 2
  let e := d.afterDigits p
  if e.left == d.left then none
  else if e.peek? == some 'n' then some e.advance
  else some e

/-- The place after the number that starts exactly here. -/
def afterNumber? (c : Cursor) : Option Cursor :=
  match c.rest with
  | '.' :: ch :: _ =>
    if ch.isDigit then some (c.advance.afterDigits Char.isDigit).afterExponent else none
  | ch :: rest =>
    if !ch.isDigit then none
    else
      let based := match ch, rest with
        | '0', b :: _ =>
          if b == 'x' || b == 'X' then c.afterBased? isHexDigit
          else if b == 'o' || b == 'O' then c.afterBased? isOctalDigit
          else if b == 'b' || b == 'B' then c.afterBased? isBinaryDigit
          else none
        | _, _ => none
      match based with
      | some d => some d
      | none =>
        let d := c.afterDigits Char.isDigit
        match d.peek? with
        | some 'n' => some d.advance
        | some '.' => some (d.advance.afterDigits Char.isDigit).afterExponent
        | _ => some d.afterExponent
  | [] => none

end Cursor

/-- The token `text`, whatever follows it. -/
def punct (text : String) : Rule := fun c =>
  let d := c.skipTrivia
  if d.startsWith text then
    let e := d.advanceBy text.length
    some ([Node.token text d.offset e.offset], e)
  else none

/-- The token `text`, not followed directly by one of the characters `next`. -/
def punctBut (text next : String) : Rule := fun c =>
  let d := c.skipTrivia
  if d.startsWith text then
    let e := d.advanceBy text.length
    match e.peek? with
    | some ch => if next.toList.contains ch then none else some ([Node.token text d.offset e.offset], e)
    | none => some ([Node.token text d.offset e.offset], e)
  else none

/-- The keyword `text`. -/
def word (text : String) : Rule := fun c =>
  match c.nextWord? with
  | none => none
  | some (d, w, e) => if w == text then some ([Node.token text d.offset e.offset], e) else none

/-- One of several keywords. -/
def wordIn (texts : List String) : Rule := fun c =>
  match c.nextWord? with
  | none => none
  | some (d, w, e) => if texts.contains w then some ([Node.token w d.offset e.offset], e) else none

/-- A named leaf over the keyword `text`. -/
def wordNode (kind text : String) : Rule := fun c =>
  match c.nextWord? with
  | none => none
  | some (d, w, e) => if w == text then some ([Node.leaf kind d.offset e.offset], e) else none

/-- A name, as a leaf of the given kind; the words in `reserved` are no names here. -/
def name (kind : String) (reserved : List String) : Rule := fun c =>
  match c.nextWord? with
  | none => none
  | some (d, w, e) => if reserved.contains w then none else some ([Node.leaf kind d.offset e.offset], e)

/-- A number literal. -/
def number : Rule := fun c =>
  let d := c.skipTrivia
  d.afterNumber?.map fun e => ([Node.leaf "number" d.offset e.offset], e)

/-- A private name, such as `#count`. -/
def privateName : Rule := fun c =>
  let d := c.skipTrivia
  match d.rest with
  | '#' :: _ =>
    d.advance.afterWord?.map fun e => ([Node.leaf "private_property_identifier" d.offset e.offset], e)
  | _ => none

end CorpusShape.Syntax
