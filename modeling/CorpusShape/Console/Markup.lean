import CorpusShape.Console.Pictures
/-!
# Markup

Texts for the console may hold tags in square brackets, which set styles and are not shown. A tag starts
with a small letter, a stroke, `#` or `@`; a backslash before it takes its meaning away. A tag that starts
with a stroke closes the last tag of its name that is still open. Between the tags, names of pictures are replaced.
-/
namespace CorpusShape.Console

/-- A closing tag that closes nothing. -/
inductive MarkupError where
  /-- The tag as it is written, and where it stands. -/
  | unmatched (tag : String) (position : Nat)
  | nothingOpen (position : Nat)
deriving Repr, DecidableEq

namespace MarkupError

def message : MarkupError → String
  | .unmatched tag position => "closing tag '" ++ tag ++ "' at position " ++ toString position ++
      " doesn't match any open tag"
  | .nothingOpen position => "closing tag '[/]' at position " ++ toString position ++ " has nothing to close"

end MarkupError

/-- Whether a character may start a tag. -/
def startsTag (c : Char) : Bool := ('a' ≤ c && c ≤ 'z') || c == '#' || c == '/' || c == '@'

/-- A piece of a text with markup, and where it starts. -/
inductive Piece where
  | plain (cs : List Char)
  | tag (cs : List Char) (position : Nat)
deriving Repr

/-- The text between brackets of the tag that `cs` starts with, after its opening bracket. -/
def tagAfter? : List Char → Option (List Char)
  | [] => none
  | c :: rest =>
    if startsTag c then
      let inner := rest.takeWhile fun d => d != '[' && d != ']'
      match rest.drop inner.length with
      | ']' :: _ => some (c :: inner)
      | _ => none
    else none

/-- The backslashes at the start of a text. -/
def slashes (cs : List Char) : Nat := (cs.takeWhile (· == '\\')).length

/-- The pieces of a text, given the plain characters before it, last first. -/
def pieces : Nat → List Char → Nat → List Char → List Piece
  | _, before, _, [] => if before.isEmpty then [] else [.plain before.reverse]
  | 0, before, _, cs => [.plain (before.reverse ++ cs)]
  | fuel + 1, before, position, c :: rest =>
    let cs := c :: rest
    let n := slashes cs
    match cs.drop n with
    | '[' :: after =>
      match tagAfter? after with
      | some inner =>
        let full := n + inner.length + 2
        let later := pieces fuel [] (position + full) (cs.drop full)
        let plain := if before.isEmpty then [] else [Piece.plain before.reverse]
        let kept := if n / 2 == 0 then [] else [Piece.plain (List.replicate (n / 2) '\\')]
        if n % 2 == 1 then plain ++ kept ++ .plain ('[' :: inner ++ [']']) :: later
        else plain ++ kept ++ .tag inner (position + n) :: later
      | none =>
        pieces fuel ((cs.take (n + 1)).reverse ++ before) (position + n + 1) after
    | _ => pieces fuel ((cs.take (max n 1)).reverse ++ before) (position + max n 1) (cs.drop (max n 1))

/-- Takes the backslash from an opening bracket. -/
def unescape : List Char → List Char
  | '\\' :: '[' :: rest => '[' :: unescape rest
  | c :: rest => c :: unescape rest
  | [] => []

/-- Controls that a console does not print. -/
def isStripped (c : Char) : Bool := [7, 8, 11, 12, 13].contains c.toNat

def trimSpaces (cs : List Char) : List Char := trimRight (cs.dropWhile isSpace)

/-- The full word for a short name of a style. -/
def styleWord : String → String
  | "b" => "bold"
  | "d" => "dim"
  | "i" => "italic"
  | "u" => "underline"
  | "r" => "reverse"
  | "c" => "conceal"
  | "s" => "strike"
  | "o" => "overline"
  | "uu" => "underline2"
  | w => w

/-- The name by which a style is known, whichever way it is written. -/
def styleName (cs : List Char) : String :=
  styleWord (String.ofList ((trimSpaces cs).map Char.toLower))

/-- The name of a tag, which ends where its value starts. -/
def tagName (cs : List Char) : List Char := cs.takeWhile (· != '=')

/-- Takes out the first of the names. -/
def closeTag (name : String) (open_ : List String) : Option (List String) :=
  if open_.contains name then some (open_.erase name) else none

/-- What is shown of the pieces, given the tags that are open, last first. -/
def shownPieces : List String → List Piece → Except MarkupError (List Char)
  | _, [] => .ok []
  | open_, .plain cs :: rest => do
    return (withPictures none (unescape cs)).filter (!isStripped ·) ++ (← shownPieces open_ rest)
  | open_, .tag cs position :: rest =>
    let name := tagName cs
    match name with
    | '/' :: closing =>
      let closing := trimSpaces closing
      if closing.isEmpty then
        match open_ with
        | _ :: open_ => shownPieces open_ rest
        | [] => .error (.nothingOpen position)
      else
        match closeTag (styleName closing) open_ with
        | some open_ => shownPieces open_ rest
        | none => .error (.unmatched ("[" ++ String.ofList cs ++ "]") position)
    | _ => shownPieces (styleName name :: open_) rest

/-- What is shown of a text with markup. -/
def shown (markup : String) : Except MarkupError String :=
  let cs := markup.toList
  (shownPieces [] (pieces (cs.length + 1) [] 0 cs)).map String.ofList

/-- The length of a part of a text in brackets that looks like a tag, brackets within it or not. -/
def bracketed? : List Char → Option Nat
  | '[' :: c :: rest =>
    if startsTag c then
      let inner := rest.takeWhile fun d => d != ']' && d != '\n'
      match rest.drop inner.length with
      | ']' :: _ => some (inner.length + 3)
      | _ => none
    else none
  | _ => none

/-- Puts a backslash before everything that looks like a tag, and doubles the backslashes before it. -/
def escapeChars : Nat → List Char → List Char
  | 0, cs => cs
  | _, [] => []
  | fuel + 1, c :: rest =>
    let cs := c :: rest
    let n := slashes cs
    match bracketed? (cs.drop n) with
    | some length =>
      List.replicate (2 * n + 1) '\\' ++ (cs.drop n).take length ++ escapeChars fuel (cs.drop (n + length))
    | none => cs.take (max n 1) ++ escapeChars fuel (cs.drop (max n 1))

/-- A text whose brackets are to be shown. -/
def escape (s : String) : String :=
  let cs := escapeChars (s.length + 1) s.toList
  match cs.reverse with
  | '\\' :: '\\' :: _ => String.ofList cs
  | '\\' :: _ => String.ofList (cs ++ ['\\'])
  | _ => String.ofList cs

/-- Prints a text with markup on a console of the given width: its lines, each with its end. -/
def printed (width : Nat) (markup : String) : Except MarkupError String := do
  return String.join ((wrap width (← shown markup)).map (· ++ "\n"))

end CorpusShape.Console
