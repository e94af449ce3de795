import CorpusShape.Text.Utf8
/-!
# Positions in a YAML text

A text is read from bytes in UTF-8, or in UTF-16 with a mark, and may hold printable characters only. A
position knows what is left of the text, its line and its column.
-/
namespace CorpusShape.Yaml

/-- Whether a character may stand in a text. -/
def isAllowed (c : Char) : Bool :=
  let n := c.toNat
  n == 9 || n == 10 || n == 13 || (0x20 ≤ n && n ≤ 0x7e) || n == 0x85 || (0xa0 ≤ n && n ≤ 0xd7ff) ||
    (0xe000 ≤ n && n ≤ 0xfffd) || 0x10000 ≤ n

/-- The units of two bytes, the first of them the lower if `little`; none if a byte is left over. -/
def units16 (little : Bool) : List UInt8 → Option (List Nat)
  | [] => some []
  | [_] => none
  | a :: b :: rest => (units16 little rest).map ((if little then a.toNat + 256 * b.toNat else 256 * a.toNat + b.toNat) :: ·)

/-- The characters of units of 16 bits; none if a surrogate stands alone. -/
def ofUnits16 : List Nat → Option (List Char)
  | [] => some []
  | u :: rest =>
    if 0xd800 ≤ u && u < 0xdc00 then
      match rest with
      | v :: rest =>
        if 0xdc00 ≤ v && v < 0xe000 then
          (ofUnits16 rest).map (Char.ofNat (0x10000 + (u - 0xd800) * 0x400 + (v - 0xdc00)) :: ·)
        else none
      | [] => none
    else if 0xdc00 ≤ u && u < 0xe000 then none
    else (ofUnits16 rest).map (Char.ofNat u :: ·)

/-- The characters of a text, if it is one. -/
def charsOf? (bytes : List UInt8) : Option (List Char) :=
  let cs := match bytes with
    | 0xff :: 0xfe :: _ => (units16 true bytes).bind ofUnits16
    | 0xfe :: 0xff :: _ => (units16 false bytes).bind ofUnits16
    | _ => (Utf8.decode bytes).toOption.map String.toList
  cs.filter (·.all isAllowed)

/-- Ends of lines. -/
def isBreak (c : Char) : Bool :=
  c == '\n' || c == '\r' || c == '\x85' || c == '\u2028' || c == '\u2029'

/-- A position in a text. -/
structure Spot where
  rest : List Char
  index : Nat := 0
  line : Nat := 0
  column : Nat := 0
deriving Inhabited

namespace Spot

/-- The character at a distance; none at the end. -/
def peek (s : Spot) (n : Nat) : Option Char := s.rest[n]?

def head (s : Spot) : Option Char := s.rest.head?

/-- Goes on by one character. -/
def next (s : Spot) : Spot :=
  match s.rest with
  | [] => s
  | c :: rest =>
    let ends := c == '\n' || c == '\x85' || c == '\u2028' || c == '\u2029' || (c == '\r' && rest.head? != some '\n')
    if ends then ⟨rest, s.index + 1, s.line + 1, 0⟩
    else ⟨rest, s.index + 1, s.line, if c == '\ufeff' then s.column else s.column + 1⟩

def forward (s : Spot) : Nat → Spot
  | 0 => s
  | n + 1 => s.next.forward n

/-- Whether there is a given character here. -/
def at_ (s : Spot) (c : Char) : Bool := s.head == some c

/-- Whether a character is missing, a blank, a tab or a line end. -/
def blankOrEnd : Option Char → Bool
  | none => true
  | some c => c == ' ' || c == '\t' || isBreak c

/-- Whether a character is missing, a blank or a line end. -/
def spaceOrEnd : Option Char → Bool
  | none => true
  | some c => c == ' ' || isBreak c

/-- Whether a character is missing or a line end. -/
def lineEnd : Option Char → Bool
  | none => true
  | some c => isBreak c

/-- The characters up to the first without the property, and the position after them. -/
def span (s : Spot) (p : Char → Bool) : List Char × Spot :=
  let cs := s.rest.takeWhile p
  (cs, s.forward cs.length)

def skip (s : Spot) (p : Char → Bool) : Spot := (s.span p).2

/-- Passes a line end, if there is one. It counts as a line feed, apart from the separators of lines and
paragraphs. -/
def lineBreak (s : Spot) : List Char × Spot :=
  match s.rest with
  | '\r' :: '\n' :: _ => (['\n'], s.forward 2)
  | c :: _ =>
    if c == '\r' || c == '\n' || c == '\x85' then (['\n'], s.next)
    else if c == '\u2028' || c == '\u2029' then ([c], s.next)
    else ([], s)
  | [] => ([], s)

/-- Whether three dashes or three dots stand here alone. -/
def atMark (s : Spot) : Bool :=
  (s.rest.take 3 == ['-', '-', '-'] || s.rest.take 3 == ['.', '.', '.']) && blankOrEnd (s.peek 3)

end Spot

end CorpusShape.Yaml
