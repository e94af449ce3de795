import CorpusShape.Glob.Brace
import CorpusShape.Glob.Pattern
/-!
# Sets of globs

A set of patterns accepts a path that one of them matches and that no exclusion matches. An exclusion is a
pattern with an exclamation mark in front, where that is allowed.
-/
namespace CorpusShape

/-- Patterns, braces and marks taken apart. -/
structure GlobSet where
  included : List Glob.Matcher := []
  excluded : List Glob.Matcher := []

namespace GlobSet

/-- The most patterns that braces may stand for. -/
def limit : Nat := 1000

/-- Whether a pattern is an exclusion: an exclamation mark that does not open a choice. -/
def isExclusion : List Char → Bool
  | '!' :: '(' :: _ => false
  | '!' :: _ => true
  | _ => false

/-- A set of patterns; none if braces stand for too many. -/
def ofPatterns? (negation : Bool) (patterns : List String) : Option GlobSet :=
  let expanded := patterns.flatMap fun p => Glob.Brace.expand limit p.toList
  if limit < expanded.length then none
  else
    let isOut := fun p => negation && isExclusion p
    some { included := (expanded.filter (!isOut ·)).map Glob.Matcher.ofPattern,
           excluded := (expanded.filter isOut).map fun p => Glob.Matcher.ofPattern (p.drop 1) }

def accepts (g : GlobSet) (path : String) : Bool :=
  let cs := path.toList
  g.included.any (·.accepts cs) && !g.excluded.any (·.accepts cs)

end GlobSet

end CorpusShape
