/-!
# Doubles

A double is read off its 64 bits: a sign, a mantissa and a power of two. The order of doubles is the order
of integers that stand for them, and the double nearest to a fraction is found in exact arithmetic.
-/
namespace CorpusShape

def twoTo (n : Nat) : Nat := Nat.pow 2 n

def tenTo (n : Nat) : Nat := Nat.pow 10 n

/-- What a double stands for. A finite one has the magnitude `mantissa * 2 ^ exponent`. -/
inductive DoubleView where
  | nan
  | infinite (negative : Bool)
  | finite (negative : Bool) (mantissa : Nat) (exponent : Int)
deriving Repr, DecidableEq

namespace Double

/-- The parts of the bits of a double. -/
def viewBits (bits : Nat) : DoubleView :=
  let negative := decide (twoTo 63 ≤ bits)
  let biased : Nat := bits / twoTo 52 % 2048
  let fraction : Nat := bits % twoTo 52
  if biased == 2047 then if fraction == 0 then .infinite negative else .nan
  else if biased == 0 then .finite negative fraction (-1074)
  else .finite negative (fraction + twoTo 52) ((biased : Int) - 1075)

def view (x : Float) : DoubleView := viewBits x.toBits.toNat

/-- The integer that stands for a double in the order of doubles. Both zeros have 0, and the infinities
have the greatest magnitude that is no NaN's. -/
def rank (x : Float) : Int :=
  let bits := x.toBits.toNat
  if bits < twoTo 63 then bits else -((bits - twoTo 63 : Nat) : Int)

/-- The rank of infinity. -/
def infiniteRank : Int := 2047 * twoTo 52

def isNaN (x : Float) : Bool := infiniteRank < (rank x).natAbs

def isInfinite (x : Float) : Bool := (rank x).natAbs == infiniteRank

def isFinite (x : Float) : Bool := (rank x).natAbs < infiniteRank

def isZero (x : Float) : Bool := rank x == 0

/-- The order of doubles. A NaN is neither less nor greater than anything. -/
def less (x y : Float) : Bool := !isNaN x && !isNaN y && rank x < rank y

/-- Equal as numbers: both zeros are the same number, and a NaN is no number. -/
def same (x y : Float) : Bool := !isNaN x && !isNaN y && rank x == rank y

theorem less_of_less_of_rank_le {x y z : Float} (h : less x y) (hz : isNaN z = false)
    (hyz : rank y ≤ rank z) : less x z := by
  simp only [less, Bool.and_eq_true, Bool.not_eq_true', decide_eq_true_eq] at h ⊢
  exact ⟨⟨h.1.1, hz⟩, by omega⟩

def positiveInfinity : Float := Float.ofBits 0x7ff0000000000000

def negativeInfinity : Float := Float.ofBits 0xfff0000000000000

def nan : Float := Float.ofBits 0x7ff8000000000000

/-- The greatest finite double. -/
def greatest : Float := Float.ofBits 0x7fefffffffffffff

/-- The distance from 1 to the next double. -/
def epsilon : Float := Float.ofBits 0x3cb0000000000000

/-- The quotient rounded to the nearest natural number, a half to the even neighbour. -/
def roundDiv (num den : Nat) : Nat :=
  let q := num / den
  let r := num % den
  if 2 * r < den then q
  else if den < 2 * r then q + 1
  else if q % 2 == 0 then q else q + 1

/-- The fraction `num / (den * 2 ^ q)`, as numerator and denominator. -/
def scaled (num den : Nat) (q : Int) : Nat × Nat :=
  if q < 0 then (num * twoTo q.natAbs, den) else (num, den * twoTo q.toNat)

/-- The power of two that gives `num / den` a mantissa of 53 bits, or the least power there is. -/
def mantissaPower (num den : Nat) : Int :=
  let q := max ((num.log2 : Int) - den.log2 - 53) (-1074)
  let (n, d) := scaled num den q
  if n / d < twoTo 53 then q else q + 1

/-- The bits of the double nearest to the positive fraction `num / den`, sign bit aside; a half goes to
the even neighbour. They may be those of infinity, or beyond. -/
def nearestBits (num den : Nat) : Nat :=
  if num == 0 then 0
  else
    let q := mantissaPower num den
    let (n, d) := scaled num den q
    let m := roundDiv n d
    if m < twoTo 52 then m else (q + 1075).toNat * twoTo 52 + (m - twoTo 52)

/-- The double with the given sign and bits. -/
def ofMagnitude (negative : Bool) (bits : Nat) : Float :=
  Float.ofBits (UInt64.ofNat (if negative then twoTo 63 + bits else bits))

/-- The double nearest to a fraction; none if that would be infinite. -/
def nearest? (negative : Bool) (num den : Nat) : Option Float :=
  let bits := nearestBits num den
  if bits < 2047 * twoTo 52 then some (ofMagnitude negative bits) else none

/-- The double nearest to an integer; none if it is too large. -/
def ofInt? (i : Int) : Option Float := nearest? (i < 0) i.natAbs 1

/-- The double nearest to a quotient of integers; none if it is too large. Zero divided by a negative integer is
the negative zero. -/
def quotient? (a b : Int) : Option Float := nearest? ((a < 0) != (b < 0)) a.natAbs b.natAbs

/-- The double nearest to `digits * 10 ^ exponent`, or an infinity. -/
def ofDecimal (negative : Bool) (digits : Nat) (exponent : Int) : Float :=
  let infinite := if negative then negativeInfinity else positiveInfinity
  let length := (Nat.toDigits 10 digits).length
  if digits == 0 || exponent + length < -400 then ofMagnitude negative 0
  else if 400 < exponent + length then infinite
  else
    let (num, den) := if exponent < 0 then (digits, tenTo exponent.natAbs) else (digits * tenTo exponent.toNat, 1)
    (nearest? negative num den).getD infinite

end Double

end CorpusShape
