/-!
# Braces

A pattern with braces stands for several patterns: one for each of the parts between commas, or for each
value of a range. Braces without a comma stand for themselves, and a backslash takes the meaning from the
character after it. More than the given number of patterns are cut off just above that number.
-/
namespace CorpusShape.Glob.Brace

/-- Every text of the first list followed by every text of the second, as many as `most`. -/
def join (most : Nat) (a b : List (List Char)) : List (List Char) :=
  (a.flatMap fun x => (b.take most).map (x ++ ·)).take most

/-- An integer at the start, with an optional minus; also its text. -/
def integer? (cs : List Char) : Option (Int × List Char × List Char) :=
  let (sign, rest) := match cs with
    | '-' :: rest => (['-'], rest)
    | _ => ([], cs)
  let ds := rest.takeWhile Char.isDigit
  if ds.isEmpty then none
  else
    let n : Nat := ds.foldl (fun n d => 10 * n + (d.toNat - '0'.toNat)) 0
    some (if sign.isEmpty then n else -(n : Int), sign ++ ds, rest.drop ds.length)

def dots? : List Char → Option (List Char)
  | '.' :: '.' :: rest => some rest
  | _ => none

/-- The step of a range, if one is given, up to the closing brace. -/
def increment? (cs : List Char) : Option (Option Int × List Char) :=
  match cs with
  | '}' :: rest => some (none, rest)
  | _ => do
    let (n, _, rest) ← integer? (← dots? cs)
    match rest with
    | '}' :: rest => return (some n, rest)
    | _ => none

/-- The values from `first` to `last` in steps of `by_`, as many as `most`. -/
def values (most : Nat) (first last : Int) (by_ : Nat) : List Int :=
  let count := min ((last - first).natAbs / by_ + 1) most
  (List.range count).map fun i =>
    let far : Int := (by_ * i : Nat)
    if first < last then first + far else first - far

/-- An integer with zeros in front up to a width, which counts the sign. -/
def padded (width : Nat) (i : Int) : List Char :=
  let ds := Nat.toDigits 10 i.natAbs
  let sign := if i < 0 then ['-'] else []
  sign ++ List.replicate (width - sign.length - ds.length) '0' ++ ds

/-- Whether digits start with a zero that only fills. -/
def zeroPadded (cs : List Char) : Bool :=
  match (match cs with | '-' :: rest => rest | _ => cs) with
  | '0' :: _ :: _ => true
  | _ => false

def stepOf (n : Option Int) : Nat := if (n.getD 1).natAbs == 0 then 1 else (n.getD 1).natAbs

/-- A range of integers. -/
def integers? (most : Nat) (cs : List Char) : Option (List (List Char) × List Char) := do
  let (first, firstText, rest) ← integer? cs
  let (last, lastText, rest) ← integer? (← dots? rest)
  let (n, rest) ← increment? rest
  let width := if zeroPadded firstText || zeroPadded lastText then max firstText.length lastText.length else 0
  return ((values most first last (stepOf n)).map (padded width), rest)

/-- A range of letters. -/
def letters? (most : Nat) : List Char → Option (List (List Char) × List Char)
  | a :: rest => do
    match ← dots? rest with
    | z :: rest =>
      if a.isAlpha && z.isAlpha then
        let (n, rest) ← increment? rest
        let codes := values most a.toNat z.toNat (stepOf n)
        return (codes.map fun i => if i == 0x5c then [] else [Char.ofNat i.toNat], rest)
      else none
    | [] => none
  | [] => none

/-- The state of a group: the texts so far, whether there was a comma, whether the part is empty yet. -/
structure Slots where
  texts : List (List Char) := []
  comma : Bool := false
  empty : Bool := true

mutual
/-- The texts that the characters stand for, up to a comma or a closing brace of the group that they are
in; none if the group is not closed. `depth` counts the groups around them, and `total` is the length of
the whole pattern. -/
def literals (most total : Nat) : Nat → Nat → List (List Char) → Bool → List Char →
    Option (List (List Char)) × List Char
  | 0, _, acc, _, cs => (some acc, cs)
  | _, depth, acc, _, [] => (if depth == 0 then some acc else none, [])
  | fuel + 1, depth, acc, dollar, c :: rest =>
    let plain := fun (text rest : List Char) => literals most total fuel depth (join most acc [text]) (c == '$') rest
    if c == '\\' then plain ('\\' :: rest.take 1) (rest.drop 1)
    else if c == '{' && !dollar then
      match group most total fuel (depth + 1) rest with
      | some (texts, rest) => literals most total fuel depth (join most acc texts) false rest
      | none => plain ['{'] rest
    else if depth != 0 && (c == ',' || c == '}') then (some acc, c :: rest)
    else plain [c] rest

/-- The texts of a group, after its opening brace; none if it is not closed. -/
def group (most total : Nat) : Nat → Nat → List Char → Option (List (List Char) × List Char)
  | 0, _, _ => none
  | fuel + 1, depth, cs =>
    match integers? most cs with
    | some r => some r
    | none =>
      match letters? most cs with
      | some r => some r
      | none => slots most total fuel depth {} cs

/-- Goes on with a group part by part. The outermost group looks past a closing brace for its comma. -/
def slots (most total : Nat) : Nat → Nat → Slots → List Char → Option (List (List Char) × List Char)
  | 0, _, _, _ => none
  | _, _, _, [] => none
  | fuel + 1, depth, s, c :: rest =>
    let more := fun (s : Slots) (r : Option (List (List Char)) × List Char) (put : List (List Char) → List (List Char)) =>
      match r with
      | (some texts, rest) => slots most total fuel depth { s with texts := put texts, empty := false } rest
      | (none, rest) => slots most total fuel depth s rest
    let index := total - rest.length
    if c == '}' && (!(depth == 1 && !s.comma) || index == 2) then
      let texts := if s.empty then s.texts ++ [[]] else s.texts
      some (if s.comma then texts else texts.map fun t => '{' :: t ++ ['}'], rest)
    else if c == ',' then
      slots most total fuel depth
        { texts := if s.empty then s.texts ++ [[]] else s.texts, comma := true, empty := true } rest
    else if c == '}' then
      if rest.isEmpty then none
      else
        let texts := if s.texts.isEmpty then [['}']] else join most s.texts [['}']]
        more { s with texts } (literals most total fuel depth [[]] false rest) (join most texts)
    else more s (literals most total fuel depth [[]] false (c :: rest)) (s.texts ++ ·)
end

/-- Drops empty texts from the end; a list of empty texts alone stands for one. -/
def dropEmptyEnd (texts : List (List Char)) : List (List Char) :=
  match (texts.reverse.dropWhile (·.isEmpty)).reverse with
  | [] => [[]]
  | kept => kept

/-- The patterns that a pattern with braces stands for, cut off above `limit`. -/
def expand (limit : Nat) (pattern : List Char) : List (List Char) :=
  let total := pattern.length
  let most := limit + 1
  dropEmptyEnd ((literals most total (4 * total + 8) 0 [[]] false pattern).1.getD [pattern])

end CorpusShape.Glob.Brace
