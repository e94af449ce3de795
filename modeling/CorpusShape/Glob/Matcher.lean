/-!
# Matchers

What a pattern asks of a text. A matcher at a place of a text gives the places to which it can get; a place
is known by what is left of the text. Conditions look ahead and stay where they are.
-/
namespace CorpusShape.Glob

inductive Matcher where
  /-- One character with a property. -/
  | char (p : Char → Bool)
  | seq (ms : List Matcher)
  | alt (ms : List Matcher)
  /-- Any number of times, none included. -/
  | many (m : Matcher)
  | ahead (m : Matcher)
  | notAhead (m : Matcher)
  /-- The start of the text. -/
  | start
  /-- The end of the text, or before a line end that is its last character. -/
  | finish

namespace Matcher

/-- Each place once. -/
def distinct : List (List Char) → List (List Char)
  | [] => []
  | p :: ps => p :: (distinct ps).filter fun q => q.length != p.length

/-- All places that are reached by steps from the given ones; each step that counts leaves less of the text
than the step before. -/
def closure (step : List Char → List (List Char)) : Nat → List (List Char) → List (List Char) → List (List Char)
  | 0, seen, _ => seen
  | _, seen, [] => seen
  | fuel + 1, seen, fresh =>
    let next := distinct (fresh.flatMap step)
    let new := next.filter fun q => !seen.any fun p => p.length == q.length
    closure step fuel (seen ++ new) new

mutual
/-- The places to which a matcher gets from a place of a text with `total` characters. -/
def run (total : Nat) : Matcher → List Char → List (List Char)
  | .char p, cs =>
    match cs with
    | c :: rest => if p c then [rest] else []
    | [] => []
  | .seq ms, cs => runSeq total ms [cs]
  | .alt ms, cs => distinct (runAlt total ms cs)
  | .many m, cs => closure (run total m) (cs.length + 1) [cs] [cs]
  | .ahead m, cs => if (run total m cs).isEmpty then [] else [cs]
  | .notAhead m, cs => if (run total m cs).isEmpty then [cs] else []
  | .start, cs => if cs.length == total then [cs] else []
  | .finish, cs => if cs == [] || cs == ['\n'] then [cs] else []

def runSeq (total : Nat) : List Matcher → List (List Char) → List (List Char)
  | [], places => places
  | m :: ms, places => runSeq total ms (distinct (places.flatMap (run total m)))

def runAlt (total : Nat) : List Matcher → List Char → List (List Char)
  | [], _ => []
  | m :: ms, cs => run total m cs ++ runAlt total ms cs
end

/-- Whether a matcher takes a whole text. -/
def accepts (m : Matcher) (cs : List Char) : Bool := (run cs.length m cs).any (·.isEmpty)

def literal (c : Char) : Matcher := .char (· == c)

def never : Matcher := .alt []

def opt (m : Matcher) : Matcher := .alt [m, .seq []]

def some1 (m : Matcher) : Matcher := .seq [m, .many m]

end Matcher

end CorpusShape.Glob
