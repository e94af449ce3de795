import CorpusShape.Numeric.Double
/-!
# Amounts

A count or a weighted sum of counts. It is an exact integer for as long as only integers are put together,
and a double from the first double on.
-/
namespace CorpusShape

inductive Amount where
  | int (i : Int)
  | float (x : Float)
deriving Repr, Inhabited

namespace Amount

/-- The double nearest to an amount; none if an integer is too large for a double. -/
def toFloat? : Amount → Option Float
  | .int i => Double.ofInt? i
  | .float x => some x

def isZero : Amount → Bool
  | .int i => i == 0
  | .float x => Double.isZero x

def isPositive : Amount → Bool
  | .int i => 0 < i
  | .float x => !Double.isNaN x && 0 < Double.rank x

/-- Puts two amounts together, exactly if both are integers. None if an integer is too large to meet a
double. -/
def combine? (exact : Int → Int → Int) (rounded : Float → Float → Float) : Amount → Amount → Option Amount
  | .int i, .int j => some (.int (exact i j))
  | a, b => do return .float (rounded (← a.toFloat?) (← b.toFloat?))

def add? : Amount → Amount → Option Amount := combine? (· + ·) (· + ·)

def mul? : Amount → Amount → Option Amount := combine? (· * ·) (· * ·)

/-- The sum of the amounts in the order given. -/
def sum? : List Amount → Option Amount
  | [] => some (.int 0)
  | a :: rest => rest.foldlM add? a

/-- The sum of counts, each with its weight, in the order given. -/
def weighted? (terms : List (Int × Amount)) : Option Amount := do
  sum? (← terms.mapM fun (count, weight) => mul? (.int count) weight)

end Amount

end CorpusShape
