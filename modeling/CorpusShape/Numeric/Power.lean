import CorpusShape.Numeric.Decimal
/-!
# Powers

A power of doubles. The rules for infinities and for values that are no number are spelled out; a finite
power that has no value, or too large a one, is an error and never an infinity.
-/
namespace CorpusShape

inductive PowerError where
  | undefined
  | tooLarge
deriving Repr, DecidableEq

namespace Double

def abs (x : Float) : Float := ofMagnitude false (x.toBits.toNat % twoTo 63)

def isNegative (x : Float) : Bool := twoTo 63 ≤ x.toBits.toNat

/-- Whether a double is an odd integer. -/
def isOdd (x : Float) : Bool :=
  match view x with
  | .finite _ m e =>
    let (num, den) := Decimal.fraction m e
    num % den == 0 && num / den % 2 == 1
  | _ => false

/-- The power of an infinity. -/
def infinitePower (x y : Float) : Float :=
  if less 0 y then (if isOdd y then x else positiveInfinity)
  else if isZero y then 1
  else if isOdd y then ofMagnitude (isNegative x) 0
  else 0

/-- A finite double to an infinite power. -/
def toInfinitePower (x y : Float) : Float :=
  if same (abs x) 1 then 1
  else if less 0 y == less 1 (abs x) then positiveInfinity
  else 0

/-- `x` to the power `y`. -/
def power (x y : Float) : Except PowerError Float :=
  if isNaN x then .ok (if isZero y then 1 else x)
  else if isNaN y then .ok (if same x 1 then 1 else y)
  else if isInfinite x then .ok (infinitePower x y)
  else if isInfinite y then .ok (toInfinitePower x y)
  else
    let r := Float.pow x y
    if isNaN r then .error .undefined
    else if isInfinite r then .error (if isZero x then .undefined else .tooLarge)
    else .ok r

end Double

end CorpusShape
