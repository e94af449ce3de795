import CorpusShape.Syntax.Type

/-!
# Patterns and parameters

What a declaration, an assignment or a call binds: names, and object and array patterns around them.
-/
namespace CorpusShape.Syntax

open Rule

/-- The equals sign of a default or an assignment. -/
def equalsSign : Rule := punctBut "=" "=>"

/-- Whether the next token continues an operand, as a member access or a call does. -/
private def suffixFollows (g : Grammar) (c : Cursor) : Bool :=
  let d := c.skipTrivia
  match d.rest with
  | '.' :: '.' :: _ => false
  | '.' :: _ => true
  | '[' :: _ => true
  | '(' :: _ => true
  | '`' :: _ => true
  | '?' :: '.' :: _ => true
  | '!' :: '=' :: _ => false
  | '!' :: _ => g.dialect.typed
  | _ => false

/-- `p`, where nothing continues it as an operand. -/
private def whole (g : Grammar) (p : Rule) : Rule := fun c =>
  match p c with
  | some (ns, d) => if suffixFollows g d then none else some (ns, d)
  | none => none

namespace Grammar

/-- A member access that is assigned to. -/
private def accessTarget (g : Grammar) : Rule :=
  check (fun ns => match ns with
    | [n] => ["identifier", "member_expression", "subscript_expression", "non_null_expression"].contains n.kind
    | _ => false)
    (ahead (name "identifier" []) ++ g.rule (.expression .inner 14 false))

/-- A pattern with an optional default. -/
private def patternWithDefault (g : Grammar) : Rule := fun c =>
  match g.rule .pattern c with
  | some ([p], d) =>
    match (equalsSign ++ field "right" (g.expression .inner)) d with
    | some (ns, e) => some ([Node.branch "assignment_pattern" p.start e.offset (p.inField "left" :: ns)], e)
    | none => some ([p], d)
  | _ => none

/-- The rest of a list or an object. -/
private def restPattern (g : Grammar) : Rule := node "rest_pattern" (punct "..." ++ g.rule .pattern)

/-- A pattern in braces. -/
def objectPattern (g : Grammar) : Rule :=
  let shorthand := name "shorthand_property_identifier_pattern"
    (if g.dialect.typed then [] else reservedWords)
  let member := g.restPattern <|>
    node "pair_pattern" (field "key" g.memberName ++ punct ":" ++ field "value" g.patternWithDefault) <|>
    node "object_assignment_pattern"
      (field "left" shorthand ++ equalsSign ++ field "right" (g.expression .inner)) <|>
    shorthand
  listOf "object_pattern" "\x7b" "\x7d" member

/-- A pattern in square brackets. -/
def arrayPattern (g : Grammar) : Rule := listOf "array_pattern" "[" "]" g.patternWithDefault

/-- A pattern in brackets of either kind. -/
def destructuring (g : Grammar) : Rule := g.objectPattern <|> g.arrayPattern

/-- A declared name or pattern. -/
def binding (g : Grammar) : Rule := g.bindingName <|> g.destructuring

/-- A target of an assignment or a binding. -/
def patternRule (g : Grammar) : Rule :=
  whole g g.bindingName <|> whole g g.destructuring <|> g.accessTarget <|> g.restPattern

/-- A decorator. -/
def decorator (g : Grammar) : Rule :=
  let step : Node → Cursor → Option (Node × Cursor) := fun n c =>
    match (punct "." ++ field "property" (privateName <|> name "property_identifier" [])) c with
    | some (ns, d) =>
      some (Node.branch "member_expression" n.start d.offset (n.inField "object" :: ns), d)
    | none => none
  let path : Rule := fun c =>
    match name "identifier" [] c with
    | some ([n], d) =>
      let (m, e) := grow step n d
      match ((if g.dialect.typed then opt (field "type_arguments" g.typeArguments) else nothing) ++
          field "arguments" g.arguments) e with
      | some (ns, f) =>
        some ([Node.branch "call_expression" n.start f.offset (m.inField "function" :: ns)], f)
      | none => some ([m], e)
    | _ => none
  node "decorator"
    (punct "@" ++ (path <|> node "parenthesized_expression" (punct "(" ++ path ++ punct ")")))

def decorators (g : Grammar) : Rule := many (field "decorator" g.decorator)

/-- A mark before a parameter's name. -/
private def parameterMark (p : Rule) : Rule := fun c =>
  match p c with
  | some (ns, d) =>
    let follows := match d.skipTrivia.peek? with
      | some ch => isWordStart ch || ch == '\\' || ch == '\x7b' || ch == '[' || ch == '.'
      | none => false
    if follows then some (ns, d) else none
  | none => none

/-- A parameter of the typed dialects. -/
private def typedParameter (g : Grammar) : Rule :=
  let start := g.decorators ++
    opt (parameterMark (node "accessibility_modifier" (wordIn accessWords))) ++
    opt (parameterMark (node "override_modifier" (word "override"))) ++
    opt (parameterMark (word "readonly")) ++
    field "pattern" (wordNode "this" "this" <|> g.binding <|> g.restPattern)
  let finish := opt (field "type" g.typeAnnotation) ++
    opt (equalsSign ++ field "value" (g.expression .inner))
  node "optional_parameter" (start ++ punct "?" ++ finish) <|> node "required_parameter" (start ++ finish)

/-- The parameters of a function, in parentheses. -/
def parametersRule (g : Grammar) : Rule :=
  let parameter := if g.dialect.typed then g.typedParameter else g.patternWithDefault
  node "formal_parameters"
    (punct "(" ++ opt (sepBy1 parameter (punct ",") ++ opt (punct ",")) ++ punct ")")

end Grammar

end CorpusShape.Syntax
