import CorpusShape.Syntax.Literal
import CorpusShape.Syntax.Semicolon

/-!
# Names of members

The names of object keys and class members: words, strings, numbers, private names, and computed
names in brackets. A modifier before such a name is a modifier only if a name follows it.
-/
namespace CorpusShape.Syntax

/-- Whether a member's name, or the star of a generator, starts at the next token. -/
def memberNameFollows (c : Cursor) : Bool :=
  let d := c.skipTrivia
  match d.peek? with
  | none => false
  | some ch =>
    isWordPart ch || ch == '\\' || ch == '"' || ch == '\'' || ch == '[' || ch == '#' || ch == '*' ||
      d.afterNumber?.isSome

namespace Grammar

/-- Reads by `p` a mark before a member's name. Where members may end with a line, a mark at the end
of a line is a member's name itself. -/
private def mark (g : Grammar) (lines : Bool) (p : Rule) : Rule := fun c =>
  match p c with
  | some (ns, d) => if memberNameFollows d && !(lines && g.partEnds d) then some (ns, d) else none
  | none => none

/-- The keyword `w` before a member's name. -/
def modifier (g : Grammar) (lines : Bool) (w : String) : Rule := g.mark lines (word w)

/-- A named node around one of the keywords `ws` before a member's name. -/
def modifierNode (g : Grammar) (lines : Bool) (kind : String) (ws : List String) : Rule :=
  g.mark lines (Rule.node kind (wordIn ws))

/-- The words for the accessibility of a member. -/
def accessWords : List String := ["public", "private", "protected"]

/-- The accessibility, scope and other marks before a member. -/
def memberMarks (g : Grammar) (lines : Bool) : Rule :=
  Rule.opt (g.modifierNode lines "accessibility_modifier" accessWords) ++
    Rule.opt (g.modifier lines "static") ++
    Rule.opt (g.modifierNode lines "override_modifier" ["override"]) ++
    Rule.opt (g.modifier lines "readonly")

/-- Whether a method is asynchronous, an accessor or a generator. -/
def methodMarks (g : Grammar) (lines : Bool) : Rule :=
  Rule.opt (g.modifier lines "async") ++
    Rule.opt (g.modifier lines "get" <|> g.modifier lines "set" <|> punct "*")

/-- A name in brackets. -/
def computedName (g : Grammar) : Rule :=
  Rule.node "computed_property_name" (punct "[" ++ g.expression .inner ++ punct "]")

/-- The name of a member. -/
def memberName (g : Grammar) : Rule :=
  name "property_identifier" [] <|> privateName <|> stringLiteral <|> number <|> g.computedName

end Grammar

end CorpusShape.Syntax
