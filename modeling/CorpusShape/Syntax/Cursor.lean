/-!
# Cursors

A cursor is a place in a text: the characters after it, their number, and its byte offset. Scanners
move a cursor over the text; every one of them recurses on the characters that are left. Between two
tokens stand blanks and comments.
-/
namespace CorpusShape.Syntax

/-- A place in a text. -/
structure Cursor where
  rest : List Char
  /-- The number of characters that are left. -/
  left : Nat
  /-- The number of bytes before this place. -/
  offset : Nat

namespace Cursor

/-- The start of a text. -/
def ofChars (cs : List Char) : Cursor := ⟨cs, cs.length, 0⟩

/-- The place after the next character, if there is one. -/
def advance (c : Cursor) : Cursor :=
  match c.rest with
  | [] => c
  | ch :: rest => ⟨rest, c.left - 1, c.offset + ch.utf8Size⟩

/-- The place `n` characters further on. -/
def advanceBy : Nat → Cursor → Cursor
  | 0, c => c
  | n + 1, c => advanceBy n c.advance

def peek? (c : Cursor) : Option Char := c.rest.head?

def atEnd (c : Cursor) : Bool := c.rest.isEmpty

/-- Whether the text from here starts with `s`. -/
def startsWith (c : Cursor) (s : String) : Bool := s.toList.isPrefixOf c.rest

/-- The place after the characters that satisfy `p`. -/
def skipWhile (p : Char → Bool) (c : Cursor) : Cursor :=
  go c.rest c.left c.offset
where
  go : List Char → Nat → Nat → Cursor
    | [], left, offset => ⟨[], left, offset⟩
    | ch :: rest, left, offset =>
      if p ch then go rest (left - 1) (offset + ch.utf8Size) else ⟨ch :: rest, left, offset⟩

/-- The characters from `c` up to `d`, a place further on in the same text. -/
def charsTo (c d : Cursor) : List Char := c.rest.take (c.left - d.left)

/-- The text from `c` up to `d`, a place further on in the same text. -/
def textTo (c d : Cursor) : String := String.ofList (c.charsTo d)

end Cursor

/-- Line and paragraph separators, which end a line comment beside the two ASCII line ends. -/
def isLineSeparator (c : Char) : Bool := c.val == 0x2028 || c.val == 0x2029

/-- The white space of a program: the ASCII blanks, every space separator, and the marks of no width. -/
def isBlank (c : Char) : Bool :=
  let v := c.val
  v == 0x20 || (0x09 ≤ v && v ≤ 0x0D) || v == 0x85 || v == 0xA0 || v == 0x1680 ||
    (0x2000 ≤ v && v ≤ 0x200B) || v == 0x2028 || v == 0x2029 || v == 0x202F || v == 0x205F ||
    v == 0x2060 || v == 0x3000 || v == 0xFEFF

namespace Cursor

/-- The place after the end of a block comment, if it is closed. -/
def afterBlock? (c : Cursor) : Option Cursor :=
  go c.rest c.left c.offset
where
  go : List Char → Nat → Nat → Option Cursor
    | [], _, _ => none
    | ch :: rest, left, offset =>
      match ch, rest with
      | '*', '/' :: rest' => some ⟨rest', left - 2, offset + 2⟩
      | _, _ => go rest (left - 1) (offset + ch.utf8Size)

/-- The place after the comment that starts here, if one does. -/
def afterComment? (c : Cursor) : Option Cursor :=
  match c.rest with
  | '/' :: '/' :: _ =>
    some (c.skipWhile fun ch => ch != '\n' && ch != '\r' && !isLineSeparator ch)
  | '/' :: '*' :: _ => (c.advanceBy 2).afterBlock?
  | _ => none

/-- The place of the next token: blanks and comments are skipped. -/
def skipTrivia (c : Cursor) : Cursor :=
  let d := c.skipWhile isBlank
  match d.afterComment? with
  | none => d
  | some e => if _h : e.left < c.left then skipTrivia e else e
termination_by c.left

/-- The comments from here up to the byte offset `stop`, as pairs of byte offsets. -/
def commentsTo (stop : Nat) (c : Cursor) : List (Nat × Nat) :=
  let d := c.skipWhile isBlank
  if stop ≤ d.offset then []
  else
    match d.afterComment? with
    | none => []
    | some e =>
      (d.offset, e.offset) :: if _h : e.left < c.left then commentsTo stop e else []
termination_by c.left

end Cursor

end CorpusShape.Syntax
