import CorpusShape.Numeric.Double
/-!
# Decimal texts of doubles

A finite double is an exact fraction. It is written with a fixed number of places, with a fixed number of
digits and an exponent, or with the fewest digits that read back as the same double.
-/
namespace CorpusShape.Decimal

open Double

/-- The magnitude `mantissa * 2 ^ exponent` as a fraction. -/
def fraction (mantissa : Nat) (exponent : Int) : Nat × Nat :=
  if exponent < 0 then (mantissa, twoTo exponent.natAbs) else (mantissa * twoTo exponent.toNat, 1)

def digitsOf (n : Nat) : List Char := Nat.toDigits 10 n

/-- The natural number with a point put in before its last `places` digits. -/
def withPoint (n places : Nat) : List Char :=
  let ds := digitsOf n
  let ds := List.replicate (places + 1 - ds.length) '0' ++ ds
  let whole := ds.take (ds.length - places)
  if places == 0 then whole else whole ++ '.' :: ds.drop (ds.length - places)

/-- The power of ten of the first digit of the positive fraction `num / den`. -/
def leadingPower (num den : Nat) : Int :=
  let e : Int := (digitsOf num).length - (digitsOf den).length
  let (n, d) := if e < 0 then (num * tenTo e.natAbs, den) else (num, den * tenTo e.toNat)
  if d ≤ n then e else e - 1

/-- The fraction `num / den` counted in units of `10 ^ power`. -/
def inUnits (num den : Nat) (power : Int) : Nat × Nat :=
  if power < 0 then (num * tenTo power.natAbs, den) else (num, den * tenTo power.toNat)

/-- The first `count` digits of a positive fraction, rounded, as one number, and the power of ten of the
first of them. -/
def leadingDigits (count num den : Nat) : Nat × Int :=
  let e := leadingPower num den
  let (n, d) := inUnits num den (e - count + 1)
  let m := roundDiv n d
  if m < tenTo count then (m, e) else (m / 10, e + 1)

/-- An exponent with its sign and at least `width` digits. -/
def exponentText (width : Nat) (e : Int) : List Char :=
  let ds := digitsOf e.natAbs
  (if e < 0 then '-' else '+') :: List.replicate (width - ds.length) '0' ++ ds

/-- Takes the zeros off the end of the places after a point, and a point that is left last. -/
def trimPlaces (cs : List Char) : List Char :=
  if cs.contains '.' then
    let cs := cs.reverse.dropWhile (· == '0')
    (match cs with
      | '.' :: rest => rest
      | _ => cs).reverse
  else cs

def signed (negative : Bool) (cs : List Char) : String :=
  String.ofList (if negative then '-' :: cs else cs)

/-- The texts of infinities and of no number are common to all forms; `write` does the rest, given the
magnitude as a fraction. -/
def withView (x : Float) (write : Nat → Nat → List Char) : String :=
  match view x with
  | .nan => "nan"
  | .infinite negative => signed negative ['i', 'n', 'f']
  | .finite negative m e =>
    let (num, den) := fraction m e
    signed negative (write num den)

/-- A double with a fixed number of places. -/
def fixed (places : Nat) (x : Float) : String :=
  withView x fun num den => withPoint (roundDiv (num * tenTo places) den) places

/-- Digits as one before the point and the others after it, then the exponent. -/
def scientificDigits (digits : List Char) (e : Int) (width : Nat) : List Char :=
  let mantissa := match digits with
    | [] => []
    | [d] => [d]
    | d :: ds => d :: '.' :: ds
  mantissa ++ 'e' :: exponentText width e

/-- A double with one digit before the point, a fixed number of places, and an exponent. -/
def scientific (places : Nat) (x : Float) : String :=
  withView x fun num den =>
    if num == 0 then scientificDigits (List.replicate (places + 1) '0') 0 2
    else
      let (m, e) := leadingDigits (places + 1) num den
      scientificDigits (digitsOf m) e 2

/-- A double with at most the given number of digits and no zeros at the end: positional if the exponent
is at least -4 and less than the number of digits, otherwise with an exponent. -/
def general (count : Nat) (x : Float) : String :=
  withView x fun num den =>
    if num == 0 then ['0']
    else
      let (m, e) := leadingDigits count num den
      if -4 ≤ e && e < count then trimPlaces (withPoint m (count - 1 - e).toNat)
      else
        let digits := trimPlaces (match digitsOf m with
          | [] => []
          | d :: ds => d :: '.' :: ds)
        digits ++ 'e' :: exponentText 2 e

/-- The fractions between which all round to the double with this mantissa and exponent, over the common
denominator of the last component. -/
def roundingInterval (mantissa : Nat) (exponent : Int) : Nat × Nat × Nat :=
  let (num, den) := fraction 1 exponent
  let below := if mantissa == twoTo 52 && -1074 < exponent then 1 else 2
  ((4 * mantissa - below) * num, (4 * mantissa + 2) * num, 4 * den)

/-- Whether `n * 10 ^ power` rounds to the double with this mantissa and exponent. -/
def readsBack (mantissa : Nat) (exponent : Int) (n : Nat) (power : Int) : Bool :=
  let (low, high, den) := roundingInterval mantissa exponent
  let (n, d) := if power < 0 then (n, tenTo power.natAbs) else (n * tenTo power.toNat, 1)
  if mantissa % 2 == 0 then low * d ≤ n * den && n * den ≤ high * d
  else low * d < n * den && n * den < high * d

/-- Of the two numbers of `count` digits next to a double, the nearer of those that read back. -/
def shortestAt? (mantissa : Nat) (exponent : Int) (count : Nat) : Option (Nat × Int) :=
  let (num, den) := fraction mantissa exponent
  let power := leadingPower num den - count + 1
  let (n, d) := inUnits num den power
  let below := n / d
  let nearer := roundDiv n d
  let farther := if nearer == below then below + 1 else below
  if readsBack mantissa exponent nearer power then some (nearer, power)
  else if readsBack mantissa exponent farther power then some (farther, power)
  else none

/-- The fewest digits that read back as the given positive double, and the power of ten of the last. -/
def shortest (mantissa : Nat) (exponent : Int) : Nat × Int :=
  ((List.range 17).findSome? fun i => shortestAt? mantissa exponent (i + 1)).getD (0, 0)

/-- Where a form of writing puts the point: the exponents that are written positionally, and the least
number of digits of an exponent. -/
structure Layout where
  least : Int
  most : Int
  exponentWidth : Nat

/-- Digits, the first of which has the power `e` of ten, with a point. At least one place is written. -/
def positional (digits : List Char) (e : Int) : List Char :=
  if e < 0 then '0' :: '.' :: List.replicate (e.natAbs - 1) '0' ++ digits
  else
    let whole := digits.take (e.toNat + 1)
    let places := digits.drop (e.toNat + 1)
    whole ++ List.replicate (e.toNat + 1 - whole.length) '0' ++ '.' :: (if places.isEmpty then ['0'] else places)

/-- A double in the fewest digits that read back, laid out as asked. -/
def Layout.write (l : Layout) (x : Float) : String :=
  match view x with
  | .nan => "nan"
  | .infinite negative => signed negative ['i', 'n', 'f']
  | .finite negative m e =>
    if m == 0 then signed negative ['0', '.', '0']
    else
      let (n, power) := shortest m e
      let digits := digitsOf n
      let first := power + digits.length - 1
      let digits := (digits.reverse.dropWhile (· == '0')).reverse
      signed negative (if l.least ≤ first && first ≤ l.most then positional digits first
        else scientificDigits digits first l.exponentWidth)

end CorpusShape.Decimal
