import CorpusShape.Yaml.Scalar
/-!
# The layout of a YAML text

A text as its sequence of tokens. Outside brackets the columns of the text decide where blocks begin and
end. A node on one line turns out to be a key when a colon follows it, so its place is remembered until
then: the marks that begin the key, and the mapping if it is the first, are put in there afterwards.
-/
namespace CorpusShape.Yaml

/-- A place where a key may have begun. A key is required where a block mapping already has its column. -/
structure PossibleKey where
  place : Nat
  required : Bool
  index : Nat
  line : Nat
  column : Nat
deriving Inhabited

/-- The tokens so far, and what the next ones depend on. `keys` holds the possible key of each depth of
brackets, the innermost first. -/
structure Layout where
  spot : Spot
  tokens : Array Token := #[]
  depth : Nat := 0
  indent : Int := -1
  outer : List Int := []
  keyAllowed : Bool := true
  keys : List (Nat × PossibleKey) := []
deriving Inhabited

namespace Layout

/-- Passes blanks, comments and line ends. -/
def toNext (inFlow : Bool) : Nat → Bool → Spot → Bool × Spot
  | 0, allowed, s => (allowed, s)
  | fuel + 1, allowed, s =>
    let s := s.skip (· == ' ')
    let s := if s.at_ '#' then s.skip (!isBreak ·) else s
    match s.lineBreak with
    | ([], _) => (allowed, s)
    | (_, s) => toNext inFlow fuel (allowed || !inFlow) s

/-- Forgets the possible keys that do not reach this place: a key is on one line and at most 1024 characters
long. -/
def dropStale (l : Layout) : Reading Layout :=
  let stale (k : PossibleKey) : Bool := k.line != l.spot.line || l.spot.index - k.index > 1024
  if l.keys.any fun (_, k) => stale k && k.required then .error .malformed
  else .ok { l with keys := l.keys.filter fun (_, k) => !stale k }

/-- Forgets the possible key at the present depth. -/
def dropKey (l : Layout) : Reading Layout :=
  if l.keys.any fun (d, k) => d == l.depth && k.required then .error .malformed
  else .ok { l with keys := l.keys.filter fun (d, _) => d != l.depth }

/-- Remembers that a key may begin here. -/
def saveKey (l : Layout) : Reading Layout :=
  if l.keyAllowed then do
    let l ← l.dropKey
    let key : PossibleKey :=
      ⟨l.tokens.size, l.depth == 0 && l.indent == l.spot.column, l.spot.index, l.spot.line, l.spot.column⟩
    return { l with keys := (l.depth, key) :: l.keys }
  else .ok l

def push (l : Layout) (t : Token) : Layout := { l with tokens := l.tokens.push t }

/-- Ends the blocks that are deeper than the column. -/
def unwindFrom (column : Int) (tokens : Array Token) (indent : Int) : List Int → Array Token × Int × List Int
  | [] => (tokens, indent, [])
  | o :: outer =>
    if column < indent then unwindFrom column (tokens.push .blockEnd) o outer else (tokens, indent, o :: outer)

def unwind (l : Layout) (column : Int) : Layout :=
  if l.depth > 0 then l
  else
    let (tokens, indent, outer) := unwindFrom column l.tokens l.indent l.outer
    { l with tokens := tokens, indent := indent, outer := outer }

/-- Begins a block at a column if it is deeper than the present one; the token goes to the given place. -/
def deepen (l : Layout) (column : Int) (place : Nat) (t : Token) : Layout :=
  if l.indent < column then
    { l with outer := l.indent :: l.outer, indent := column, tokens := l.tokens.insertIdxIfInBounds place t }
  else l

/-- Goes on by some characters and gives a token for them. -/
def take (l : Layout) (n : Nat) (t : Token) : Layout :=
  { l with spot := l.spot.forward n, tokens := l.tokens.push t }

/-- A mark that divides documents, or a directive: all blocks end. -/
def closeAll (l : Layout) : Reading Layout := do
  let l ← (l.unwind (-1)).dropKey
  return { l with keyAllowed := false }

def flowStart (l : Layout) (t : Token) : Reading Layout := do
  let l ← l.saveKey
  return { l with depth := l.depth + 1, keyAllowed := true }.take 1 t

/-- A bracket that closes nothing leaves the depth below zero, which no later token mends. -/
def flowEnd (l : Layout) (t : Token) : Reading Layout := do
  let l ← l.dropKey
  if l.depth == 0 then .error .malformed
  else return { l with depth := l.depth - 1, keyAllowed := false }.take 1 t

def flowEntry (l : Layout) : Reading Layout := do
  let l ← { l with keyAllowed := true }.dropKey
  return l.take 1 .flowEntry

def blockEntry (l : Layout) : Reading Layout := do
  if l.depth == 0 && !l.keyAllowed then .error .malformed
  let l := if l.depth == 0 then l.deepen l.spot.column l.tokens.size .blockSequence else l
  let l ← { l with keyAllowed := true }.dropKey
  return l.take 1 .entry

def keyMark (l : Layout) : Reading Layout := do
  if l.depth == 0 && !l.keyAllowed then .error .malformed
  let l := if l.depth == 0 then l.deepen l.spot.column l.tokens.size .blockMapping else l
  let l ← { l with keyAllowed := l.depth == 0 }.dropKey
  return l.take 1 .key

def valueMark (l : Layout) : Reading Layout :=
  match l.keys.find? fun (d, _) => d == l.depth with
  | some (_, key) =>
    let l := { l with
      keys := l.keys.filter fun (d, _) => d != l.depth
      tokens := l.tokens.insertIdxIfInBounds key.place .key }
    let l := if l.depth == 0 then l.deepen key.column key.place .blockMapping else l
    .ok ({ l with keyAllowed := false }.take 1 .value)
  | none => do
    if l.depth == 0 && !l.keyAllowed then .error .malformed
    let l := if l.depth == 0 then l.deepen l.spot.column l.tokens.size .blockMapping else l
    let l ← { l with keyAllowed := l.depth == 0 }.dropKey
    return l.take 1 .value

/-- A token that may begin a key. -/
def keyToken (l : Layout) (read : Spot → Reading (Token × Spot)) : Reading Layout := do
  let l ← l.saveKey
  let (t, s) ← read l.spot
  return { l with keyAllowed := false, spot := s }.push t

def block (l : Layout) (folded : Bool) : Reading Layout := do
  let l ← { l with keyAllowed := true }.dropKey
  let (t, s) ← blockScalar folded l.indent l.spot
  return { l with spot := s }.push t

def plain (l : Layout) : Reading Layout := do
  let l ← l.saveKey
  let (cs, ended, s) := plainScalar (l.depth > 0) l.indent (l.spot.rest.length + 1) [] [] false l.spot
  return { l with keyAllowed := ended, spot := s }.push (.scalar (String.ofList cs) true)

/-- Whether a plain scalar may begin here. -/
def plainStart (l : Layout) (c : Char) : Bool :=
  !(Spot.blankOrEnd (some c) || "-?:,[]\x7b\x7d#&*!|>'\"%@\x60".toList.contains c) ||
    (!Spot.blankOrEnd (l.spot.peek 1) && (c == '-' || (l.depth == 0 && (c == '?' || c == ':'))))

/-- The token that begins with a character. -/
def token (l : Layout) (c : Char) : Reading Layout :=
  let blankNext := Spot.blankOrEnd (l.spot.peek 1)
  if c == '%' && l.spot.column == 0 then do
    let l ← l.closeAll
    let (t, s) ← directive l.spot
    return { l with spot := s }.push t
  else if (c == '-' || c == '.') && l.spot.column == 0 && l.spot.atMark then do
    let l ← l.closeAll
    return l.take 3 (if c == '-' then .documentStart else .documentEnd)
  else
    match c with
    | '[' => l.flowStart .flowSequence
    | '\x7b' => l.flowStart .flowMapping
    | ']' => l.flowEnd .flowSequenceEnd
    | '\x7d' => l.flowEnd .flowMappingEnd
    | ',' => l.flowEntry
    | '*' => l.keyToken fun s => (anchorName s).map fun (n, s) => (.alias n, s)
    | '&' => l.keyToken fun s => (anchorName s).map fun (n, s) => (.anchor n, s)
    | '!' => l.keyToken tagToken
    | '\'' => l.keyToken fun s => quotedScalar false (s.rest.length + 1) [] s.next
    | '"' => l.keyToken fun s => quotedScalar true (s.rest.length + 1) [] s.next
    | c =>
      if c == '-' && blankNext then l.blockEntry
      else if c == '?' && (l.depth > 0 || blankNext) then l.keyMark
      else if c == ':' && (l.depth > 0 || blankNext) then l.valueMark
      else if c == '|' && l.depth == 0 then l.block false
      else if c == '>' && l.depth == 0 then l.block true
      else if l.plainStart c then l.plain
      else .error .malformed

/-- All tokens. -/
def run : Nat → Layout → Reading (Array Token)
  | 0, _ => .error .malformed
  | fuel + 1, l => do
    let (allowed, s) := toNext (l.depth > 0) (l.spot.rest.length + 1) l.keyAllowed l.spot
    let l ← { l with spot := s, keyAllowed := allowed }.dropStale
    let l := l.unwind l.spot.column
    match l.spot.head with
    | none =>
      let l ← (l.unwind (-1)).dropKey
      return l.tokens
    | some c => run fuel (← l.token c)

end Layout

/-- The tokens of a text. A mark of the byte order in front of it is passed. -/
def tokens (cs : List Char) : Reading (List Token) :=
  let spot : Spot := { rest := cs }
  let spot := if spot.at_ '\ufeff' then spot.next else spot
  (Layout.run (cs.length + 2) { spot := spot }).map Array.toList

end CorpusShape.Yaml
