import CorpusShape.Syntax.Parameter

/-!
# Methods and classes

Methods stand in objects and in classes; a class body also holds fields, signatures, index keys and
static blocks.
-/
namespace CorpusShape.Syntax

open Rule

namespace Grammar

/-- A method with its body. -/
def method (g : Grammar) (lines : Bool) : Rule :=
  let body := field "body" (g.rule .block)
  if g.dialect.typed then
    node "method_definition"
      (g.memberMarks lines ++ g.methodMarks lines ++ field "name" g.memberName ++ opt (punct "?") ++
        g.callSignature ++ body)
  else
    node "method_definition"
      (g.decorators ++ opt (g.modifier lines "static") ++ g.methodMarks lines ++
        field "name" g.memberName ++ g.callSignature ++ body)

/-- A method that a subclass has to define. -/
private def abstractSignature (g : Grammar) : Rule :=
  node "abstract_method_signature"
    (opt (node "accessibility_modifier" (wordIn accessWords)) ++
      word "abstract" ++ opt (node "override_modifier" (word "override" ++ ahead g.memberName)) ++
      opt (g.modifier true "get" <|> g.modifier true "set" <|> punct "*") ++
      field "name" g.memberName ++ opt (punct "?") ++ g.callSignature)

/-- The value of a field, with the semicolon after it. -/
private def fieldEnd (g : Grammar) (kind : String) (start : Rule) : Rule := fun c =>
  let comma := if g.dialect.typed then punct "," else refuse
  match node kind (start ++ equalsSign ++ field "value" (g.expression .tail)) c with
  | some (ns, d) => (given ns d ++ (g.semicolonAfterExpression <|> comma)) c
  | none => (node kind start ++ (g.semicolon <|> comma)) c

/-- A field of the typed dialects. -/
private def typedField (g : Grammar) : Rule :=
  let access := g.modifierNode true "accessibility_modifier" accessWords
  g.fieldEnd "public_field_definition"
    (g.decorators ++ opt (g.modifier true "declare") ++ opt access ++ opt (g.modifier true "declare") ++
      opt (g.modifier true "accessor") ++ opt (g.modifier true "static") ++
      opt (g.modifierNode true "override_modifier" ["override"]) ++ opt (g.modifier true "abstract") ++
      opt (g.modifier true "readonly") ++ opt (g.modifier true "abstract") ++
      field "name" g.memberName ++ opt (punct "?" <|> punctBut "!" "=") ++
      opt (field "type" g.typeAnnotation))

/-- A field of the dialect without types. -/
private def plainField (g : Grammar) : Rule :=
  g.fieldEnd "field_definition"
    (g.decorators ++ opt (g.modifier true "static") ++ field "property" g.memberName)

private def staticBlock (g : Grammar) : Rule :=
  node "class_static_block" (word "static" ++ field "body" (g.rule .block))

private def classMember (g : Grammar) : Rule :=
  if g.dialect.typed then
    let divider := g.semicolon <|> punct ","
    g.staticBlock <|> punct ";" <|>
      (g.decorators ++ g.method true ++ opt (punct ";")) <|>
      (g.abstractSignature ++ divider) <|> (g.indexSignature ++ divider) <|>
      (g.methodSignature ++ (g.semicolonAfterSignature <|> punct ",")) <|> g.typedField
  else
    g.staticBlock <|> punct ";" <|> (field "member" (g.method true) ++ opt (punct ";")) <|> g.plainField

/-- The members of a class, in braces. -/
def classBodyRule (g : Grammar) : Rule :=
  node "class_body" (punct "\x7b" ++ many g.classMember ++ punct "\x7d")

/-- What a class extends and implements. -/
private def heritage (g : Grammar) : Rule :=
  if g.dialect.typed then
    let base := field "value" (g.expression .base) ++ opt (field "type_arguments" g.typeArguments)
    let extends_ := node "extends_clause" (word "extends" ++ sepBy1 base (punct ","))
    let implements_ := node "implements_clause" (word "implements" ++ sepBy1 (g.rule .type) (punct ","))
    node "class_heritage" ((extends_ ++ opt implements_) <|> implements_)
  else node "class_heritage" (word "extends" ++ g.expression .base)

/-- What follows the name of a class. -/
private def classTail (g : Grammar) : Rule :=
  (if g.dialect.typed then opt (field "type_parameters" g.typeParameters) else nothing) ++
    opt g.heritage ++ field "body" (g.rule .classBody)

private def className (g : Grammar) : Rule :=
  if g.dialect.typed then name "type_identifier" ["extends", "implements"]
  else name "identifier" reservedWords

/-- A class in an expression, with or without a name. -/
def classExpression (g : Grammar) : Rule :=
  node "class" (g.decorators ++ word "class" ++ opt (field "name" g.className) ++ g.classTail)

/-- A declared class. -/
def classDeclaration (g : Grammar) : Rule :=
  node "class_declaration" (g.decorators ++ word "class" ++ field "name" g.className ++ g.classTail)

/-- A declared class that has no instances of its own. -/
def abstractClass (g : Grammar) : Rule :=
  node "abstract_class_declaration"
    (g.decorators ++ word "abstract" ++ word "class" ++ field "name" g.className ++ g.classTail)

end Grammar

end CorpusShape.Syntax
