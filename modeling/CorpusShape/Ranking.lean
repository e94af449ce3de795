/-!
# Rankings

A ranking by a comparison that may leave elements incomparable, so that it need not be an order. The elements
that already stand in a run stay together, and each later element is put in by halving. Where the comparison is
an order of keys this is the stable sort.
-/
namespace CorpusShape.Ranking

variable {α : Type}

/-- The elements after `last` that keep on in one direction, and the others. -/
def runAfter (goesOn : α → α → Bool) (last : α) : List α → List α × List α
  | [] => ([], [])
  | x :: xs =>
    if goesOn last x then
      let (run, others) := runAfter goesOn x xs
      (x :: run, others)
    else ([], x :: xs)

/-- The first run, and the elements after it. A run that falls at each step is turned around. -/
def firstRun (less : α → α → Bool) : List α → List α × List α
  | [] => ([], [])
  | [x] => ([x], [])
  | x :: y :: ys =>
    if less y x then
      let (run, others) := runAfter (fun a b => less b a) x (y :: ys)
      ((x :: run).reverse, others)
    else
      let (run, others) := runAfter (fun a b => !less b a) x (y :: ys)
      (x :: run, others)

/-- The number of elements of `[low, high)`, and those before it, that stay in front of `x`, found by halving. -/
def placeIn (less : α → α → Bool) (x : α) (xs : List α) : Nat → Nat → Nat → Nat
  | 0, low, _ => low
  | fuel + 1, low, high =>
    if low < high then
      let middle := (low + high) / 2
      if xs[middle]?.any (less x) then placeIn less x xs fuel low middle
      else placeIn less x xs fuel (middle + 1) high
    else low

/-- Puts an element into a ranking. -/
def insert (less : α → α → Bool) (xs : List α) (x : α) : List α :=
  let place := placeIn less x xs xs.length 0 xs.length
  xs.take place ++ x :: xs.drop place

/-- The ranking of elements. -/
def ofList (less : α → α → Bool) (xs : List α) : List α :=
  let (run, others) := firstRun less xs
  others.foldl (insert less) run

end CorpusShape.Ranking
