import CorpusShape.Console.Cells
/-!
# Wrapping lines

A text is broken into lines that fit a width. A word goes to the next line if it does not fit on this one;
a word that fits on no line is cut. Blanks at the end of a line stay as far as they fit.
-/
namespace CorpusShape.Console

/-- Characters that separate words. -/
def isSpace (c : Char) : Bool :=
  let n := c.toNat
  (9 ≤ n && n ≤ 13) || (0x1c ≤ n && n ≤ 0x20) || n == 0x85 || n == 0xa0 || n == 0x1680 ||
    (0x2000 ≤ n && n ≤ 0x200a) || n == 0x2028 || n == 0x2029 || n == 0x202f || n == 0x205f || n == 0x3000

def trimRight (cs : List Char) : List Char := (cs.reverse.dropWhile isSpace).reverse

/-- The parts of a text between line ends. -/
def lines : List Char → List (List Char)
  | [] => [[]]
  | c :: rest =>
    if c == '\n' then [] :: lines rest
    else
      match lines rest with
      | [] => [[c]]
      | l :: ls => (c :: l) :: ls

/-- Puts blanks for tabs, up to the next multiple of eight cells. -/
def expandTabs (column : Nat) : List Char → List Char
  | [] => []
  | c :: rest =>
    if c == '\t' then
      let gap := 8 - column % 8
      List.replicate gap ' ' ++ expandTabs (column + gap) rest
    else c :: expandTabs (column + cells c) rest

/-- The words of a line, each with the blanks after it; the first also has the blanks before it. Blanks
alone are no word. -/
def words (cs : List Char) : List (List Char) :=
  (go cs.length (cs.takeWhile isSpace) (cs.dropWhile isSpace))
where
  go : Nat → List Char → List Char → List (List Char)
    | _, _, [] => []
    | 0, _, _ => []
    | fuel + 1, leading, cs =>
      let word := cs.takeWhile (!isSpace ·)
      let rest := cs.dropWhile (!isSpace ·)
      (leading ++ word ++ rest.takeWhile isSpace) :: go fuel [] (rest.dropWhile isSpace)

/-- Cuts a word into pieces of at most `width` cells. -/
def chop (width : Nat) (cs : List Char) : List (List Char) :=
  let (pieces, piece, _) := cs.foldl (fun ((pieces, piece, room) : List (List Char) × List Char × Nat) c =>
    if room + cells c > width then (pieces ++ [piece.reverse], [c], cells c)
    else (pieces, c :: piece, room + cells c)) ([], [], 0)
  pieces ++ [piece.reverse]

/-- Takes one more word, given the lines that are full, the line that is being filled, and its cells. The
second component is whether anything stands before the word at all. -/
structure Filling where
  full : List (List Char) := []
  line : List Char := []
  room : Nat := 0

namespace Filling

def isStart (f : Filling) : Bool := f.full.isEmpty && f.line.isEmpty

/-- Starts a new line with `piece`. -/
def break_ (f : Filling) (piece : List Char) : Filling :=
  if f.isStart then { f with line := piece, room := cellLength piece }
  else ⟨f.full ++ [f.line], piece, cellLength piece⟩

def put (width : Nat) (f : Filling) (word : List Char) : Filling :=
  let length := cellLength (trimRight word)
  if f.room + length ≤ width then { f with line := f.line ++ word, room := f.room + cellLength word }
  else if width < length then (chop width word).foldl break_ f
  else if f.room != 0 && !f.isStart then f.break_ word
  else { f with line := f.line ++ word }

end Filling

/-- Takes blanks off the end of a line as far as they do not fit, and cuts what is still too long. -/
def fit (width : Nat) (cs : List Char) : List Char :=
  let blanks := cs.length - (trimRight cs).length
  let cs := cs.take (cs.length - min blanks (cs.length - width))
  if cellLength cs ≤ width then cs
  else (cs.foldl (fun ((kept, room) : List Char × Nat) c =>
    if room + cells c ≤ width then (kept ++ [c], room + cells c) else (kept, width + 1)) ([], 0)).1

/-- One line of text as lines that fit. -/
def wrapLine (width : Nat) (cs : List Char) : List (List Char) :=
  let cs := if cs.contains '\t' then expandTabs 0 cs else cs
  let ws := words cs
  if ws.isEmpty then [fit width cs]
  else
    let f := ws.foldl (Filling.put width) {}
    (f.full ++ [f.line]).map (fit width)

/-- A text as lines that fit. -/
def wrap (width : Nat) (s : String) : List String :=
  ((lines s.toList).flatMap (wrapLine width)).map String.ofList

end CorpusShape.Console
