import CorpusShape.Numeric.Double
/-!
# Numbers in texts

A number as a person may write it: a sign, digits with a point, an exponent, or a word for an infinity or
for no number. Blanks around it do not matter, and single low lines may stand inside.
-/
namespace CorpusShape.Numeric

/-- The blanks of the Unicode standard. -/
def isBlank (c : Char) : Bool :=
  let n := c.toNat
  (9 ≤ n && n ≤ 13) || n == 0x20 || n == 0x85 || n == 0xa0 || n == 0x1680 || (0x2000 ≤ n && n ≤ 0x200a) ||
    n == 0x2028 || n == 0x2029 || n == 0x202f || n == 0x205f || n == 0x3000

def trimBlanks (cs : List Char) : List Char :=
  ((cs.dropWhile isBlank).reverse.dropWhile isBlank).reverse

/-- The number that digits stand for. -/
def natOfDigits (ds : List Char) : Nat := ds.foldl (fun n d => 10 * n + (d.toNat - '0'.toNat)) 0

/-- An optional sign, and whether it is a minus. -/
def takeSign : List Char → Bool × List Char
  | '-' :: rest => (true, rest)
  | '+' :: rest => (false, rest)
  | cs => (false, cs)

/-- The exponent that follows the digits of a number: nothing, or a mark, a sign and digits. -/
def exponent? : List Char → Option Int
  | [] => some 0
  | c :: rest =>
    if c == 'e' || c == 'E' then
      let (negative, ds) := takeSign rest
      if !ds.isEmpty && ds.all Char.isDigit then
        let n := natOfDigits ds
        some (if negative then -(n : Int) else n)
      else none
    else none

/-- Digits with an optional point and an optional exponent. -/
def decimal? (negative : Bool) (cs : List Char) : Option Float :=
  let whole := cs.takeWhile Char.isDigit
  let rest := cs.dropWhile Char.isDigit
  let (places, rest) := match rest with
    | '.' :: rest => (rest.takeWhile Char.isDigit, rest.dropWhile Char.isDigit)
    | _ => ([], rest)
  if whole.isEmpty && places.isEmpty then none
  else (exponent? rest).map fun e => Double.ofDecimal negative (natOfDigits (whole ++ places)) (e - places.length)

/-- A number without blanks and low lines. -/
def plainNumber? (cs : List Char) : Option Float :=
  let (negative, rest) := takeSign cs
  match String.ofList (rest.map Char.toLower) with
  | "inf" => some (if negative then Double.negativeInfinity else Double.positiveInfinity)
  | "infinity" => some (if negative then Double.negativeInfinity else Double.positiveInfinity)
  | "nan" => some Double.nan
  | _ => decimal? negative rest

/-- Whether two low lines stand side by side. -/
def doubledLine : List Char → Bool
  | '_' :: '_' :: _ => true
  | _ :: rest => doubledLine rest
  | [] => false

/-- A number in a text. -/
def number? (s : String) : Option Float :=
  let cs := s.toList
  match plainNumber? (trimBlanks cs) with
  | some x => some x
  | none =>
    if cs.head? == some '_' || cs.getLast? == some '_' || doubledLine cs then none
    else plainNumber? (cs.filter (· != '_'))

end CorpusShape.Numeric
