import CorpusShape.Syntax.PropertyName

/-!
# Types

Type expressions of the typed dialects, with the parameter and argument lists that functions, classes
and calls share with them.
-/
namespace CorpusShape.Syntax

open Rule

/-- Words that start a type of their own. -/
def typeWords : List String :=
  ["any", "number", "boolean", "string", "symbol", "void", "unknown", "never", "object", "unique",
    "typeof", "keyof", "infer", "readonly", "this", "true", "false", "null", "undefined", "new",
    "import"]

/-- The name of a type. -/
def typeName : Rule := name "type_identifier" typeWords

/-- The name that a declaration gives to a type. -/
def declaredTypeName : Rule := name "type_identifier" []

namespace Grammar

/-- Type arguments in angle brackets. -/
def typeArguments (g : Grammar) : Rule :=
  node "type_arguments"
    (punctBut "<" "<=" ++ sepBy1 (g.rule .type) (punct ",") ++ opt (punct ",") ++ punct ">")

/-- Type parameters in angle brackets. -/
def typeParameters (g : Grammar) : Rule :=
  let bound := node "constraint" (word "extends" ++ g.rule .type)
  let default := node "default_type" (punct "=" ++ g.rule .type)
  let parameter := node "type_parameter"
    ((opt (word "const" ++ ahead declaredTypeName)) ++ field "name" declaredTypeName ++
      opt (field "constraint" bound) ++ opt (field "value" default))
  node "type_parameters"
    (punct "<" ++ sepBy1 parameter (punct ",") ++ opt (punct ",") ++ punct ">")

/-- A type after a colon. -/
def typeAnnotation (g : Grammar) : Rule := node "type_annotation" (punct ":" ++ g.rule .type)

/-- A statement about the type of an argument. -/
private def typePredicate (g : Grammar) : Rule :=
  node "type_predicate"
    (field "name" (wordNode "this" "this" <|> name "identifier" []) ++ word "is" ++
      field "type" (g.rule .type))

/-- A statement that a call returns only if a condition holds. -/
private def assertion (g : Grammar) : Rule :=
  node "asserts"
    (word "asserts" ++ (g.typePredicate <|> wordNode "this" "this" <|> name "identifier" ["is"]))

/-- The result of a function, after its arrow. -/
private def resultType (g : Grammar) : Rule :=
  g.typePredicate <|> g.assertion <|> g.rule .type

/-- The result of a function, after a colon. -/
def resultAnnotation (g : Grammar) : Rule :=
  node "type_predicate_annotation" (punct ":" ++ g.typePredicate) <|>
    node "asserts_annotation" (punct ":" ++ g.assertion) <|> g.typeAnnotation

/-- The parameters of a function with what the dialect writes around them. -/
def callSignature (g : Grammar) : Rule :=
  if g.dialect.typed then
    opt (field "type_parameters" g.typeParameters) ++ field "parameters" (g.rule .parameters) ++
      opt (field "return_type" g.resultAnnotation)
  else field "parameters" (g.rule .parameters)

/-- Arguments of a call. -/
def arguments (g : Grammar) : Rule :=
  listOf "arguments" "(" ")"
    (node "spread_element" (punct "..." ++ g.expression .inner) <|> g.expression .inner)

/-- A method without a body. -/
def methodSignature (g : Grammar) : Rule :=
  node "method_signature"
    (g.memberMarks true ++ g.methodMarks true ++ field "name" g.memberName ++ opt (punct "?") ++ g.callSignature)

/-- A key of an index, such as `[name: string]: Value` or `[K in Keys]?: Value`. -/
def indexSignature (g : Grammar) : Rule :=
  let mapped := node "mapped_type_clause"
    (field "name" declaredTypeName ++ word "in" ++ field "type" (g.rule .type) ++
      opt (word "as" ++ field "alias" (g.rule .type)))
  let plain := field "name" (name "identifier" []) ++ punct ":" ++ field "index_type" (g.rule .type)
  let value := node "omitting_type_annotation" (punct "-?:" ++ g.rule .type) <|>
    node "adding_type_annotation" (punct "+?:" ++ g.rule .type) <|>
    node "opting_type_annotation" (punct "?:" ++ g.rule .type) <|> g.typeAnnotation
  node "index_signature"
    (opt (opt (field "sign" (punct "+" <|> punct "-")) ++ word "readonly") ++ punct "[" ++
      (mapped <|> plain) ++ punct "]" ++ field "type" value)

private def propertySignature (g : Grammar) : Rule :=
  node "property_signature"
    (g.memberMarks true ++ field "name" g.memberName ++ opt (punct "?") ++ opt (field "type" g.typeAnnotation))

private def constructSignature (g : Grammar) : Rule :=
  node "construct_signature"
    (opt (word "abstract") ++ word "new" ++ opt (field "type_parameters" g.typeParameters) ++
      field "parameters" (g.rule .parameters) ++ opt (field "type" g.typeAnnotation))

/-- The members of an object type or an interface, in braces. -/
def typeMembers (g : Grammar) (kind : String) : Rule :=
  let member := node "call_signature" g.callSignature <|> g.constructSignature <|>
    g.indexSignature <|> g.methodSignature <|> g.propertySignature
  let divider := punct "," <|> g.semicolon
  node kind
    ((punct "\x7b|" <|> punct "\x7b") ++ opt (punct "," <|> punct ";") ++
      opt (member ++ many (divider ++ member) ++ opt divider) ++ (punct "|\x7d" <|> punct "\x7d"))

/-- A name of a type, possibly qualified. -/
private def qualifiedTypeName (g : Grammar) : Rule := fun c =>
  match typeName c with
  | some ([n], d) =>
    let step : Node → Cursor → Option (Node × Cursor) := fun n c =>
      match (punct "." ++ field "name" (name "type_identifier" [])) c with
      | some (ns, d) =>
        let m := match n.kind with
          | "type_identifier" => n.withKind "identifier"
          | _ => n.withKind "nested_identifier"
        some (Node.branch "nested_type_identifier" n.start d.offset (m.inField "module" :: ns), d)
      | none => none
    let (m, e) := grow step n d
    match g.typeArguments e with
    | some (args, f) =>
      some ([Node.branch "generic_type" m.start f.offset
        (m.inField "name" :: args.map (·.inField "type_arguments"))], f)
    | none => some ([m], e)
  | _ => none

/-- A name that an interface extends. -/
def extendedType (g : Grammar) : Rule := g.qualifiedTypeName

/-- What may follow a value whose type is asked for: members, indexes and calls. -/
private def queryStep (g : Grammar) (n : Node) (c : Cursor) : Option (Node × Cursor) :=
  if g.partEnds c then none
  else
    match (punct "." ++ field "property" (privateName <|> name "property_identifier" [])) c with
    | some (ns, d) =>
      some (Node.branch "member_expression" n.start d.offset (n.inField "object" :: ns), d)
    | none =>
      match (punct "[" ++ field "index" (stringLiteral <|> number <|> wordNode "predefined_type" "number" <|>
          wordNode "predefined_type" "string" <|> name "identifier" []) ++ punct "]") c with
      | some (ns, d) =>
        some (Node.branch "subscript_expression" n.start d.offset (n.inField "object" :: ns), d)
      | none =>
        match field "arguments" g.arguments c with
        | some (ns, d) =>
          some (Node.branch "call_expression" n.start d.offset (n.inField "function" :: ns), d)
        | none => none

/-- The type of a value. -/
private def typeQuery (g : Grammar) : Rule := fun c =>
  match word "typeof" c with
  | some (kw, d) =>
    match (wordNode "import" "import" <|> wordNode "this" "this" <|> name "identifier" []) d with
    | some ([n], e) =>
      let (m, f) := grow g.queryStep n e
      match g.typeArguments f with
      | some (args, h) =>
        let inner := Node.branch "instantiation_expression" m.start h.offset
          (m.inField "function" :: args.map (·.inField "type_arguments"))
        some ([Node.branch "type_query" (startOf kw) h.offset (kw ++ [inner])], h)
      | none => some ([Node.branch "type_query" (startOf kw) f.offset (kw ++ [m])], f)
    | _ => none
  | none => none
where
  startOf : List Node → Nat
    | [] => 0
    | n :: _ => n.start

/-- A type of another module, such as `import("./shapes").Box`. -/
private def importedType (g : Grammar) : Rule := fun c =>
  match wordNode "import" "import" c with
  | some ([n], d) =>
    let (m, e) := grow g.queryStep n d
    if m.kind == "import" then none
    else
      match g.typeArguments e with
      | some (args, f) =>
        some ([Node.branch "generic_type" m.start f.offset
          (m.inField "name" :: args.map (·.inField "type_arguments"))], f)
      | none => some ([m], e)
  | _ => none

private def predefinedType : Rule :=
  node "predefined_type"
    (wordIn ["any", "number", "boolean", "string", "symbol", "void", "unknown", "never", "object"] <|>
      (word "unique" ++ word "symbol"))

private def literalType : Rule :=
  node "literal_type"
    (node "unary_expression" (field "operator" (punct "-" <|> punct "+") ++ field "argument" number) <|>
      number <|> stringLiteral <|> wordNode "true" "true" <|> wordNode "false" "false" <|>
      wordNode "null" "null" <|> wordNode "undefined" "undefined")

/-- A type that a question mark may follow. -/
private def optionalType (g : Grammar) : Rule := fun c =>
  match g.rule .type c with
  | some (ns, d) =>
    match punct "?" d with
    | some (ms, e) => node "optional_type" (given (ns ++ ms) e) c
    | none => some (ns, d)
  | none => none

private def tupleType (g : Grammar) : Rule :=
  let label := name "identifier" []
  let named := node "optional_parameter"
      (field "name" label ++ punct "?" ++ field "type" g.typeAnnotation) <|>
    node "required_parameter"
      (field "name" (node "rest_pattern" (punct "..." ++ label) <|> label) ++ field "type" g.typeAnnotation)
  let member := named <|> node "rest_type" (punct "..." ++ g.rule .type) <|> g.optionalType
  node "tuple_type"
    (punct "[" ++ opt (sepBy1 member (punct ",") ++ opt (punct ",")) ++ punct "]")

private def functionType (g : Grammar) : Rule :=
  node "function_type"
      (opt (field "type_parameters" g.typeParameters) ++ field "parameters" (g.rule .parameters) ++
        punct "=>" ++ field "return_type" g.resultType) <|>
    node "constructor_type"
      (opt (word "abstract") ++ word "new" ++ opt (field "type_parameters" g.typeParameters) ++
        field "parameters" (g.rule .parameters) ++ punct "=>" ++ field "type" (g.rule .type))

/-- A type without operators around it. -/
private def primaryType (g : Grammar) : Rule :=
  node "parenthesized_type" (punct "(" ++ g.rule .type ++ punct ")") <|> predefinedType <|>
    literalType <|> g.typeQuery <|> g.importedType <|> wordNode "this_type" "this" <|>
    g.typeMembers "object_type" <|> g.tupleType <|> templateType g <|>
    node "existential_type" (punct "*") <|> g.qualifiedTypeName

/-- A list or a member of the type before. -/
private def typeStep (g : Grammar) (n : Node) (c : Cursor) : Option (Node × Cursor) :=
  if g.partEnds c then none
  else
    match (punct "[" ++ punct "]") c with
    | some (ns, d) => some (Node.branch "array_type" n.start d.offset (n :: ns), d)
    | none =>
      match (punct "[" ++ g.rule .type ++ punct "]") c with
      | some (ns, d) => some (Node.branch "lookup_type" n.start d.offset (n :: ns), d)
      | none => none

private def postfixType (g : Grammar) : Rule := fun c =>
  match g.primaryType c with
  | some ([n], d) =>
    let (m, e) := grow g.typeStep n d
    some ([m], e)
  | _ => none

/-- A type with the operators that are written before it. -/
private def prefixedType (g : Grammar) : Nat → Rule
  | 0 => refuse
  | n + 1 =>
    g.functionType <|>
      node "infer_type" (word "infer" ++ declaredTypeName ++
        opt (word "extends" ++ g.rule .type ++ notAhead (punct "?"))) <|>
      node "readonly_type" (word "readonly" ++ g.prefixedType n) <|>
      node "index_type_query" (word "keyof" ++ g.prefixedType n) <|>
      node "flow_maybe_type" (punct "?" ++ g.prefixedType n) <|> g.postfixType

/-- Types joined by `mark`, which may also stand before the first. -/
private def joinedType (kind mark : String) (p : Rule) : Rule := fun c =>
  match (opt (punct mark) ++ sepBy1 p (punct mark)) c with
  | some ([n], d) => some ([n], d)
  | some (ns, d) => node kind (given ns d) c
  | none => none

/-- A type. -/
def typeExpression (g : Grammar) : Rule := fun c =>
  let union := joinedType "union_type" "|" (joinedType "intersection_type" "&" (g.prefixedType 8))
  match union c with
  | some ([n], d) =>
    let rest := word "extends" ++ field "right" (g.rule .type) ++ punct "?" ++
      field "consequence" (g.rule .type) ++ punct ":" ++ field "alternative" (g.rule .type)
    match rest d with
    | some (ns, e) => some ([Node.branch "conditional_type" n.start e.offset (n.inField "left" :: ns)], e)
    | none => some ([n], d)
  | _ => none

end Grammar

end CorpusShape.Syntax
