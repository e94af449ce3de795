import CorpusShape.Glob.Matcher
/-!
# Patterns

A pattern for paths. `*` and `?` stay within a part of the path, `**` as a whole part spans parts, a set of
characters stands in square brackets, and `?( )`, `*( )`, `+( )`, `@( )`, `!( )` hold choices. A wildcard at
the start of a part never takes a part `.` or `..`, and several strokes count as one.
-/
namespace CorpusShape.Glob

namespace Matcher

def isStroke (c : Char) : Bool := c == '/'

def stroke : Matcher := .char isStroke

def strokes : Matcher := some1 stroke

def any : Matcher := .char fun _ => true

/-- Any characters within a part. -/
def within : Matcher := .many (.char (!isStroke ·))

/-- The end of a part. -/
def partEnd : Matcher := .alt [.finish, stroke]

/-- One or two dots. -/
def dots : Matcher := .seq [literal '.', opt (literal '.')]

/-- The part that starts here is neither `.` nor `..`. -/
def noDots : Matcher := .notAhead (.seq [dots, partEnd])

/-- The part goes on. -/
def needChar : Matcher := .ahead (.char (!isStroke ·))

/-- Any parts, none of them `.` or `..`. -/
def parts : Matcher :=
  .many (.seq [.notAhead (.seq [.alt [stroke, .start], dots, partEnd]), any])

/-- The border of parts: strokes, or an end of the path. -/
def border : Matcher := some1 (.alt [.start, .finish, stroke])

end Matcher

open Matcher

/-- An element of a pattern. An exclusion waits for what follows it in its part. -/
inductive Item where
  | plain (m : Matcher)
  | separator
  | border
  | exclusion (choices star : Matcher)

namespace Item

def matcher : Item → Matcher
  | .plain m => m
  | .separator => strokes
  | .border => Matcher.border
  | .exclusion _ star => star

end Item

/-- What an exclusion refuses is one of its choices followed by the rest of the part. Given the items last
first, each exclusion is closed with what comes after it. -/
def closeExclusions (final : List Matcher) (items : List Item) : List Item :=
  (items.foldl (fun (later : List Item) item =>
    match item with
    | .exclusion choices star =>
      .plain (.seq [.notAhead (.seq (choices :: later.map Item.matcher ++ final)), star]) :: later
    | item => item :: later) []).reverse

/-- Where in a part the pattern stands: at its first character, or right before it. -/
structure Place where
  atFirst : Bool := false
  beforeFirst : Bool := false

namespace Place

def first : Place := { atFirst := true }

def next (p : Place) : Place := { atFirst := p.beforeFirst }

end Place

/-- The named classes of characters. -/
def namedClass? (name : String) : Option (Char → Bool) :=
  let ascii (f : Nat → Bool) : Char → Bool := fun c => c.toNat < 0x80 && f c.toNat
  let isLower (n : Nat) := 97 ≤ n && n ≤ 122
  let isUpper (n : Nat) := 65 ≤ n && n ≤ 90
  let isDigit (n : Nat) := 48 ≤ n && n ≤ 57
  let isAlpha (n : Nat) := isLower n || isUpper n
  match name with
  | "alnum" => some (ascii fun n => isAlpha n || isDigit n)
  | "alpha" => some (ascii isAlpha)
  | "ascii" => some (ascii fun _ => true)
  | "blank" => some (ascii fun n => n == 9 || n == 32)
  | "cntrl" => some (ascii fun n => n < 32 || n == 127)
  | "digit" => some (ascii isDigit)
  | "graph" => some (ascii fun n => 33 ≤ n && n ≤ 126)
  | "lower" => some (ascii isLower)
  | "print" => some (ascii fun n => 32 ≤ n && n ≤ 126)
  | "punct" => some (ascii fun n => 33 ≤ n && n ≤ 126 && !isAlpha n && !isDigit n)
  | "space" => some (ascii fun n => (9 ≤ n && n ≤ 13) || n == 32)
  | "upper" => some (ascii isUpper)
  | "word" => some (ascii fun n => isAlpha n || isDigit n || n == 95)
  | "xdigit" => some (ascii fun n => isDigit n || (65 ≤ n && n ≤ 70) || (97 ≤ n && n ≤ 102))
  | _ => none

/-- A named class after the opening bracket of `[:name:]`. -/
def classAfter? : List Char → Option ((Char → Bool) × List Char)
  | ':' :: rest =>
    let name := rest.takeWhile Char.isAlpha
    match rest.drop name.length with
    | ':' :: ']' :: rest => (namedClass? (String.ofList name)).map (·, rest)
    | _ => none
  | _ => none

/-- A set of characters that is being read: what is in it, the last single character, whether a hyphen has
been read that may make a range, and how many characters to come are no such hyphen. -/
structure SetReading where
  classes : List (Char → Bool) := []
  last : Option Char := none
  range : Bool := false
  noRange : Nat := 0
  afterClass : Bool := false

namespace SetReading

def single (s : SetReading) (c : Char) : SetReading :=
  { s with classes := (· == c) :: s.classes, last := some c, range := false, noRange := s.noRange - 1,
           afterClass := false }

/-- Takes a character. It ends a range if a hyphen has opened one; a range that runs backwards is empty and
takes its first character with it. -/
def take (s : SetReading) (c : Char) : SetReading :=
  match s.range, s.last with
  | true, some a =>
    let classes := s.classes.drop 1
    let classes := if c.toNat < a.toNat then classes else (fun d => a ≤ d && d ≤ c) :: classes
    { classes, last := if c.toNat < a.toNat then none else some c, noRange := s.noRange - 1 }
  | _, _ => s.single c

def hyphen (s : SetReading) : SetReading :=
  if s.afterClass then s.single '-'
  else if s.range then s.take '-'
  else if s.noRange == 0 && s.last.isSome then { s with range := true, noRange := 2 }
  else s.single '-'

/-- Takes a named class. A hyphen before it stands for itself. -/
def takeClass (s : SetReading) (p : Char → Bool) : SetReading :=
  let s := if s.range then { s with range := false }.single '-' else s
  { s with classes := p :: s.classes, last := none, afterClass := true, noRange := 0 }

/-- A hyphen at the end stands for itself. -/
def contains (s : SetReading) (c : Char) : Bool := (s.range && c == '-') || s.classes.any (· c)

end SetReading

/-- The rest of a set up to its closing bracket. A stroke cannot stand in a set. -/
def setTail : Nat → SetReading → List Char → Option (SetReading × List Char)
  | 0, _, _ => none
  | _, _, [] => none
  | fuel + 1, s, c :: rest =>
    match c with
    | ']' => some (s, rest)
    | '/' => none
    | '-' => setTail fuel s.hyphen rest
    | '\\' =>
      match rest with
      | [] => none
      | '/' :: _ => none
      | d :: rest => setTail fuel { s.take d with noRange := s.noRange - 2 } rest
    | '[' =>
      match classAfter? rest with
      | some (p, rest) => setTail fuel (s.takeClass p) rest
      | none => setTail fuel (s.take '[') rest
    | c => setTail fuel (s.take c) rest

/-- A set of characters after its opening bracket. -/
def set? (cs : List Char) : Option (Matcher × List Char) :=
  let (negated, cs) := match cs with
    | '!' :: rest => (true, rest)
    | '^' :: rest => (true, rest)
    | _ => (false, cs)
  let (s, cs) : SetReading × List Char := match cs with
    | ']' :: rest => (SetReading.single {} ']', rest)
    | '-' :: rest => (SetReading.single {} '-', rest)
    | _ => ({}, cs)
  (setTail (cs.length + 1) s cs).map fun (s, rest) => (.char fun c => s.contains c != negated, rest)

/-- One character of a part, at the given place. -/
def oneOf (place : Place) (m : Matcher) : Matcher :=
  let inPart : Matcher := .seq [.notAhead stroke, m]
  if place.atFirst then .seq [noDots, inPart] else inPart

/-- Any characters of a part, at the given place. -/
def star (place : Place) : Matcher :=
  if place.atFirst then .seq [needChar, noDots, within] else within

/-- A kind of choice. -/
def isChoiceMark (c : Char) : Bool := c == '?' || c == '*' || c == '+' || c == '@' || c == '!'

def dropStrokes (cs : List Char) : List Char := cs.dropWhile isStroke

/-- Whether what follows `*` makes it span parts: another star, and then a stroke or the end. Gives what
comes after. -/
def spans? : List Char → Option (List Char)
  | '*' :: [] => some []
  | '*' :: '/' :: rest => some rest
  | '*' :: '\\' :: '/' :: rest => some rest
  | '*' :: '\\' :: [] => some []
  | _ => none

/-- A choice that is being read: its mark, whether it stands in an exclusion, the place where it starts,
the alternatives before, the items of this one last first, the place, and whether a dot stands at the start
of a part. -/
structure ChoiceReading where
  mark : Char
  insideExclusion : Bool := false
  entry : Place
  before : List Matcher := []
  items : List Item := []
  place : Place
  dotted : Bool := false

namespace ChoiceReading

/-- The reading of a choice that starts at a place. -/
def opened (mark : Char) (insideExclusion : Bool) (place : Place) (dotted : Bool) : ChoiceReading :=
  { mark, insideExclusion, entry := place, place, dotted }

/-- Takes an item that any place can have. -/
def put (r : ChoiceReading) (m : Matcher) : ChoiceReading :=
  { r with items := .plain m :: r.items, place := r.place.next }

/-- Takes an item that is made for the place. -/
def putHere (r : ChoiceReading) (item : Item) : ChoiceReading := { r with items := item :: r.items, place := {} }

/-- The alternatives with this one ended. -/
def alternatives (r : ChoiceReading) : List Matcher :=
  let nested := r.insideExclusion && r.mark == '!'
  let items := closeExclusions (if nested then [] else [partEnd]) r.items
  r.before ++ [.seq (items.reverse.map Item.matcher)]

/-- Starts the next alternative. -/
def bar (r : ChoiceReading) : ChoiceReading :=
  { r with before := r.alternatives, items := [], place := if r.entry.atFirst then .first else r.place.next }

/-- The item that the choice stands for. -/
def item (r : ChoiceReading) : Item :=
  let choices : Matcher := .alt r.alternatives
  match r.mark with
  | '?' => .plain (opt choices)
  | '*' => .plain (.many choices)
  | '+' => .plain (some1 choices)
  | '@' => .plain choices
  | _ =>
    let rest := if r.entry.atFirst && !r.dotted then .seq [noDots, within] else within
    .exclusion choices (if r.entry.atFirst then .seq [needChar, rest] else rest)

end ChoiceReading

/-- The rest of a choice: the whole reading, and what comes after it. None if it is not closed. -/
def choiceTail? : Nat → ChoiceReading → List Char → Option (ChoiceReading × List Char)
  | 0, _, _ => none
  | _, _, [] => none
  | fuel + 1, r, c :: rest =>
    let inner := match rest with
      | '(' :: rest =>
        if isChoiceMark c then choiceTail? fuel (.opened c (r.mark == '!') r.place r.dotted) rest else none
      | _ => none
    match inner with
    | some (i, rest) => choiceTail? fuel { r.putHere i.item with dotted := i.dotted } rest
    | none =>
      match c with
      | ')' => some (r, rest)
      | '|' => choiceTail? fuel r.bar rest
      | '*' =>
        let rest := if r.place.atFirst then rest.dropWhile (· == '*') else rest
        choiceTail? fuel (r.putHere (.plain (star r.place))) rest
      | '.' => choiceTail? fuel { r.putHere (.plain (literal '.')) with dotted := r.dotted || r.place.atFirst } rest
      | '?' => choiceTail? fuel (r.putHere (.plain (oneOf r.place any))) rest
      | '/' => choiceTail? fuel (r.put never) rest
      | '\\' =>
        match rest with
        | [] => none
        | '.' :: _ => choiceTail? fuel r rest
        | '/' :: rest => choiceTail? fuel (r.put never) rest
        | d :: rest => choiceTail? fuel (r.put (literal d)) rest
      | '[' =>
        match set? rest with
        | some (m, rest) => choiceTail? fuel (r.putHere (.plain (oneOf r.place m))) rest
        | none => choiceTail? fuel (r.put (literal '[')) rest
      | c => choiceTail? fuel (r.put (literal c)) rest

/-- A choice after its mark: the item, and what comes after it. -/
def choice? (mark : Char) (place : Place) : List Char → Option (Item × List Char)
  | '(' :: rest =>
    if isChoiceMark mark then
      (choiceTail? (2 * rest.length + 2) (.opened mark false place false) rest).map fun (r, rest) => (r.item, rest)
    else none
  | _ => none

/-- The items of a pattern, last first. -/
def items : Nat → List Item → Place → List Char → List Item
  | 0, done, _, _ => done
  | _, done, _, [] => done
  | fuel + 1, done, place, c :: rest =>
    let put := fun (m : Matcher) (rest : List Char) => items fuel (.plain m :: done) place.next rest
    let separate := fun (rest : List Char) =>
      items fuel (.separator :: closeExclusions [partEnd] done) .first (dropStrokes rest)
    let literally := fun (_ : Unit) =>
      match c with
      | '*' =>
        match if place.atFirst then spans? rest else none with
        | some after =>
          match done with
          | .border :: _ => items fuel done .first after
          | [] => items fuel [.border, .plain parts] .first (dropStrokes after)
          | _ :: before => items fuel (.border :: .plain parts :: .plain (.ahead stroke) :: before) .first (dropStrokes after)
        | none =>
          let rest := if place.atFirst then rest.dropWhile (· == '*') else rest
          items fuel (.plain (star place) :: done) {} rest
      | '?' => items fuel (.plain (oneOf place any) :: done) {} rest
      | '/' => separate rest
      | '\\' =>
        match rest with
        | [] => done
        | '.' :: _ => items fuel done place rest
        | '/' :: rest => separate rest
        | d :: rest => put (literal d) rest
      | '[' =>
        match set? rest with
        | some (m, rest) => items fuel (.plain (oneOf place m) :: done) {} rest
        | none => put (literal '[') rest
      | c => put (literal c) rest
    match choice? c place rest with
    | some (item, rest) => items fuel (item :: done) {} rest
    | none => literally ()

/-- The matcher of a pattern without braces. Strokes at the end of a path do not count. -/
def Matcher.ofPattern (pattern : List Char) : Matcher :=
  let done := closeExclusions [partEnd] (items (pattern.length + 1) [] .first pattern)
  .seq (done.reverse.map Item.matcher ++ [.many stroke])

end CorpusShape.Glob
