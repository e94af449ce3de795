import CorpusShape.Glob
import CorpusShape.Module.Extract
/-!
# Which files belong to a corpus

A file belongs to a corpus if its path, seen from the root, is included and not excluded, and if its
extension is that of a known dialect.
-/
namespace CorpusShape

/-- The patterns that select files; none where braces stand for too many of them. -/
structure FileRules where
  included : Option GlobSet
  excluded : Option GlobSet

namespace FileRules

/-- The patterns that are taken if none are given. -/
def standardPatterns : List String := ["src/**/*.ts"]

/-- The rules for patterns. An included pattern may be an exclusion. -/
def ofPatterns (included excluded : List String) : FileRules :=
  { included := GlobSet.ofPatterns? true (if included.isEmpty then standardPatterns else included),
    excluded := GlobSet.ofPatterns? false excluded }

def includes? (r : FileRules) (path : String) : Option Bool := r.included.map (·.accepts path)

def excludes? (r : FileRules) (path : String) : Option Bool := r.excluded.map (·.accepts path)

end FileRules

end CorpusShape
