import CorpusShape.Module.Callee

/-!
# Classes and objects

The methods, fields and base of a class, and the statically named keys of an object literal.
-/
namespace CorpusShape

open Syntax

/-- The left-most name of what a class extends. -/
def heritageBase (src : Source) (heritage : Node) : Option String :=
  let expression := match heritage.namedChild? "extends_clause" with
    | some clause => clause.child? "value" <|> clause.namedChildren.head?
    | none => heritage.namedChildren.head?.filter (·.kind != "implements_clause")
  match expression with
  | none => none
  | some e =>
    match (memberChain src e).1 with
    | some root => if root.kind == "identifier" then some (src.textOf root) else none
    | none => none

/-- The names of the parameters that are also fields: those with an accessibility. -/
def parameterFields (src : Source) (params : Option Node) : List String :=
  match params with
  | none => []
  | some p =>
    (p.namedChildren.filter fun q => (q.namedChild? "accessibility_modifier").isSome).flatMap
      (patternNames src)

/-- Adds one member of a class body. -/
def ClassShape.addMember (src : Source) (c : ClassShape) (member : Node) : ClassShape :=
  if member.kind == "public_field_definition" || member.kind == "field_definition" then
    let name := src.textOf? (member.child? "name" <|> member.child? "property")
    { c with members := c.members ++ [name], propertyCount := c.propertyCount + 1 }
  else
    let name := src.textOf? (member.child? "name")
    if member.kind == "method_signature" then { c with members := c.members ++ [name] }
    else if member.kind == "method_definition" || member.kind == "abstract_method_signature" then
      let c := { c with members := c.members ++ [name] }
      if name == "constructor" then
        { c with
          constructorCount := c.constructorCount + 1
          members := c.members ++ parameterFields src (member.child? "parameters") }
      else if member.hasToken "get" || member.hasToken "set" then c
      else
        let method : Method :=
          { name, line := src.line member.start, body := src.textOf? (member.child? "body"),
            accessibility := (member.namedChild? "accessibility_modifier").map src.textOf }
        { c with methods := c.methods ++ [method] }
    else c

/-- The shape of a class node that stands in `scope`. -/
def classShape (src : Source) (scope : Scope) (n : Node) : ClassShape :=
  let start : ClassShape :=
    { name := (n.child? "name").map src.textOf, line := src.line n.start, scope := some scope,
      base := (n.namedChild? "class_heritage").bind (heritageBase src) }
  match n.child? "body" with
  | none => start
  | some body => body.namedChildren.foldl (ClassShape.addMember src) start

/-- The key of one member of an object literal, if it is statically named. -/
def objectKey? (src : Source) (member : Node) : Option String :=
  if member.kind == "shorthand_property_identifier" then some (src.textOf member)
  else
    let key := if member.kind == "pair" then member.child? "key"
      else if member.kind == "method_definition" then member.child? "name"
      else none
    match key with
    | none => none
    | some k =>
      if k.kind == "computed_property_name" then none
      else if k.kind == "string" then some (unquoted (src.textOf k))
      else some (src.textOf k)

/-- The statically named keys of an object literal. -/
def objectKeys (src : Source) (n : Node) : List String := n.namedChildren.filterMap (objectKey? src)

end CorpusShape
