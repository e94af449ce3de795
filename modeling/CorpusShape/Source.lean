/-!
# Source texts

Syntax trees speak of a text by byte offsets of its UTF-8 form. Here are the two things that are asked
of a text: the part between two offsets, and the line of an offset.
-/
namespace CorpusShape

/-- A source text, as its characters. -/
structure Source where
  chars : List Char
deriving Repr, Inhabited

namespace Source

def ofString (s : String) : Source := ⟨s.toList⟩

/-- The characters whose first byte lies in `[start, stop)`, the text starting at the byte `at_`. -/
def charsBetween (start stop : Nat) : Nat → List Char → List Char
  | _, [] => []
  | at_, c :: rest =>
    if stop ≤ at_ then []
    else if start ≤ at_ then c :: charsBetween start stop (at_ + c.utf8Size) rest
    else charsBetween start stop (at_ + c.utf8Size) rest

/-- The text between two byte offsets. -/
def slice (s : Source) (start stop : Nat) : String := String.ofList (charsBetween start stop 0 s.chars)

/-- The number of line ends before the byte offset `offset`. -/
def row (s : Source) (offset : Nat) : Nat := (charsBetween 0 offset 0 s.chars).count '\n'

/-- The line of a byte offset, counted from one. -/
def line (s : Source) (offset : Nat) : Nat := s.row offset + 1

end Source

end CorpusShape
