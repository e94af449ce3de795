import CorpusShape.Yaml.Token
/-!
# YAML scalars

Scalars are literal or folded blocks, quoted texts, or plain texts. A line end inside a quoted or plain
text counts as a blank, and empty lines count as line ends.
-/
namespace CorpusShape.Yaml

/-- What becomes of the last line end of a block scalar and of empty lines after it. -/
inductive Chomping where
  | strip
  | clip
  | keep
deriving DecidableEq

/-- The marks after the sign of a block scalar. -/
def blockMarks (s : Spot) : Reading (Chomping × Option Nat × Spot) := do
  let chomping (s : Spot) : Option (Chomping × Spot) :=
    if s.at_ '+' then some (.keep, s.next) else if s.at_ '-' then some (.strip, s.next) else none
  let increment (s : Spot) : Reading (Option Nat × Spot) :=
    match s.head with
    | some c =>
      if c == '0' then .error .malformed
      else if c.isDigit then .ok (some (c.toNat - 48), s.next)
      else .ok (none, s)
    | none => .ok (none, s)
  let (c, n, s) ← match chomping s with
    | some (c, s) => do
      let (n, s) ← increment s
      pure (c, n, s)
    | none => do
      let (n, s) ← increment s
      match if n.isSome then chomping s else none with
      | some (c, s) => pure (c, n, s)
      | none => pure (.clip, n, s)
  if Spot.spaceOrEnd s.head then return (c, n, s) else .error .malformed

/-- Blanks up to a column. -/
def toColumn (column : Nat) : Nat → Spot → Spot
  | 0, s => s
  | fuel + 1, s => if s.column < column && s.at_ ' ' then toColumn column fuel s.next else s

/-- Empty lines before a line of a block scalar. -/
def blockBreaks (column : Nat) : Nat → List Char → Spot → List Char × Spot
  | 0, done, s => (done, s)
  | fuel + 1, done, s =>
    let s := toColumn column s.rest.length s
    match s.lineBreak with
    | ([], _) => (done, s)
    | (b, s) => blockBreaks column fuel (done ++ b) s

/-- Empty lines before the first line of a block scalar, and the greatest column in them. -/
def blockIndentation : Nat → List Char → Nat → Spot → List Char × Nat × Spot
  | 0, done, most, s => (done, most, s)
  | fuel + 1, done, most, s =>
    if s.at_ ' ' then blockIndentation fuel done (max most s.next.column) s.next
    else
      match s.lineBreak with
      | ([], _) => (done, most, s)
      | (b, s) => blockIndentation fuel (done ++ b) most s

/-- The lines of a block scalar: its text without the last line end, that line end, the empty lines after
it, and the position. -/
def blockLines (folded : Bool) (column : Nat) : Nat → List Char → List Char → List Char → Spot →
    List Char × List Char × List Char × Spot
  | 0, done, last, breaks, s => (done, last, breaks, s)
  | fuel + 1, done, last, breaks, s =>
    if s.column == column && !s.rest.isEmpty then
      let plainStart := !(s.at_ ' ' || s.at_ '\t')
      let (cs, s) := s.span (!isBreak ·)
      let done := done ++ breaks ++ cs
      let (last, s) := s.lineBreak
      let (breaks, s) := blockBreaks column (s.rest.length + 1) [] s
      if s.column == column && !s.rest.isEmpty then
        let join := if folded && last == ['\n'] && plainStart && !(s.at_ ' ' || s.at_ '\t')
          then (if breaks.isEmpty then [' '] else []) else last
        blockLines folded column fuel (done ++ join) last breaks s
      else (done, last, breaks, s)
    else (done, last, breaks, s)

/-- A block scalar inside a block of the given indentation, at its sign. -/
def blockScalar (folded : Bool) (indent : Int) (s : Spot) : Reading (Token × Spot) := do
  let (chomping, increment, s) ← blockMarks s.next
  let s ← ignoredLine s
  let least := (max (indent + 1) 1).toNat
  let (breaks, column, s) := match increment with
    | none =>
      let (breaks, most, s) := blockIndentation (s.rest.length + 1) [] 0 s
      (breaks, max least most, s)
    | some n =>
      let column := least + n - 1
      let (breaks, s) := blockBreaks column (s.rest.length + 1) [] s
      (breaks, column, s)
  let (text, last, breaks, s) := blockLines folded column (s.rest.length + 1) [] [] breaks s
  let text := match chomping with
    | .strip => text
    | .clip => text ++ last
    | .keep => text ++ last ++ breaks
  return (.scalar (String.ofList text) false, s)

/-- The character of a short escape. -/
def shortEscape? : Char → Option Char
  | '0' => some '\x00'
  | 'a' => some '\x07'
  | 'b' => some '\x08'
  | 't' => some '\t'
  | '\t' => some '\t'
  | 'n' => some '\n'
  | 'v' => some '\x0b'
  | 'f' => some '\x0c'
  | 'r' => some '\r'
  | 'e' => some '\x1b'
  | ' ' => some ' '
  | '"' => some '"'
  | '\\' => some '\\'
  | '/' => some '/'
  | 'N' => some '\x85'
  | '_' => some '\xa0'
  | 'L' => some '\u2028'
  | 'P' => some '\u2029'
  | _ => none

/-- The number of digits of an escape by code. -/
def codeLength? : Char → Option Nat
  | 'x' => some 2
  | 'u' => some 4
  | 'U' => some 8
  | _ => none

/-- Empty lines inside a quoted scalar. A mark that divides documents may not stand there. -/
def quotedBreaks : Nat → List Char → Spot → Reading (List Char × Spot)
  | 0, _, _ => .error .malformed
  | fuel + 1, done, s =>
    if s.atMark then .error .malformed
    else
      let s := s.skip fun c => c == ' ' || c == '\t'
      match s.lineBreak with
      | ([], _) => .ok (done, s)
      | (b, s) => quotedBreaks fuel (done ++ b) s

/-- The line ends in a scalar over several lines: one alone becomes a blank, and of several the first is
left out. -/
def foldBreaks (first breaks : List Char) : List Char :=
  if first != ['\n'] then first ++ breaks
  else if breaks.isEmpty then [' '] else breaks

def escape (s : Spot) : Reading (List Char × Spot) :=
  match s.head with
  | none => .error .malformed
  | some c =>
    match shortEscape? c, codeLength? c with
    | some d, _ => .ok ([d], s.next)
    | none, some n =>
      let ds := (s.rest.drop 1).take n
      if ds.length == n && ds.all isHex then
        let code := hexValue ds
        if code < 0x110000 then .ok ([Char.ofNat code], s.forward (n + 1))
        else if code < 0x80000000 then .error .badCode
        else .error .tooLarge
      else .error .malformed
    | none, none =>
      if isBreak c then quotedBreaks (s.rest.length + 1) [] s.lineBreak.2 else .error .malformed

/-- A quoted scalar, after its opening quote. -/
def quotedScalar (double : Bool) : Nat → List Char → Spot → Reading (Token × Spot)
  | 0, _, _ => .error .malformed
  | fuel + 1, done, s =>
    match s.rest with
    | [] => .error .malformed
    | c :: rest =>
      if c == '\'' && !double then
        if rest.head? == some '\'' then quotedScalar double fuel ('\'' :: done) (s.forward 2)
        else .ok (.scalar (String.ofList done.reverse) false, s.next)
      else if c == '"' && double then .ok (.scalar (String.ofList done.reverse) false, s.next)
      else if c == '\\' && double then do
        let (cs, s) ← escape s.next
        quotedScalar double fuel (cs.reverse ++ done) s
      else if c == ' ' || c == '\t' || isBreak c then
        let (blanks, s) := s.span fun c => c == ' ' || c == '\t'
        match s.lineBreak with
        | ([], _) =>
          if s.rest.isEmpty then .error .malformed else quotedScalar double fuel (blanks.reverse ++ done) s
        | (first, s) => do
          let (breaks, s) ← quotedBreaks (s.rest.length + 1) [] s
          quotedScalar double fuel ((foldBreaks first breaks).reverse ++ done) s
      else quotedScalar double fuel (c :: done) s.next

/-- The length of a piece of a plain scalar without blanks. -/
def plainLength (inFlow : Bool) : List Char → Nat
  | [] => 0
  | c :: rest =>
    let colonEnds := match rest.head? with
      | none => true
      | some d => Spot.blankOrEnd (some d) || (inFlow && ",[]\x7b\x7d".toList.contains d)
    if Spot.blankOrEnd (some c) || (c == ':' && colonEnds) || (inFlow && ",?[]\x7b\x7d".toList.contains c) then 0
    else plainLength inFlow rest + 1

/-- Empty lines inside a plain scalar; none if a mark that divides documents follows. -/
def plainBreaks : Nat → List Char → Spot → Option (List Char) × Spot
  | 0, done, s => (some done, s)
  | fuel + 1, done, s =>
    if s.at_ ' ' then plainBreaks fuel done s.next
    else
      match s.lineBreak with
      | ([], _) => (some done, s)
      | (b, s) => if s.atMark then (none, s) else plainBreaks fuel (done ++ b) s

/-- Blanks and line ends inside a plain scalar, and whether a line has ended. -/
def plainSpaces (s : Spot) : Option (List Char) × Bool × Spot :=
  let (blanks, s) := s.span (· == ' ')
  match s.lineBreak with
  | ([], _) => (some blanks, false, s)
  | (first, s) =>
    if s.atMark then (none, true, s)
    else
      let (breaks, s) := plainBreaks (s.rest.length + 1) [] s
      (breaks.map (foldBreaks first), true, s)

/-- A plain scalar: its text, whether the last thing passed was a line end, and the position. -/
def plainScalar (inFlow : Bool) (indent : Int) : Nat → List Char → List Char → Bool → Spot → List Char × Bool × Spot
  | 0, done, _, ended, s => (done, ended, s)
  | fuel + 1, done, spaces, ended, s =>
    if s.at_ '#' then (done, ended, s)
    else
      let length := plainLength inFlow s.rest
      if length == 0 then (done, ended, s)
      else
        let done := done ++ spaces ++ s.rest.take length
        match plainSpaces (s.forward length) with
        | (some (c :: cs), ended, s) =>
          if s.at_ '#' || (!inFlow && (s.column : Int) < indent + 1) then (done, ended, s)
          else plainScalar inFlow indent fuel done (c :: cs) ended s
        | (_, ended, s) => (done, ended, s)

end CorpusShape.Yaml
