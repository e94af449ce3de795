import CorpusShape.Syntax.Element
import CorpusShape.Syntax.Member

/-!
# Expressions

An expression is an operand that grows to the right: member accesses and calls first, then casts,
assignments, conditions and binary operators. A binary operator has a level; the operand on its right
takes operators of a higher level only, or of the same level if the operator leans to the right.
-/
namespace CorpusShape.Syntax

open Rule

/-- A binary operator. -/
structure BinaryOperator where
  text : String
  /-- Characters that would make another token of it. -/
  stopper : String
  level : Nat
  /-- Equal operators group from the right. -/
  rightward : Bool

/-- Binary operators, longer spellings first. -/
def binaryOperators : List BinaryOperator :=
  [⟨">>>", "=", 9, false⟩, ⟨"===", "", 7, false⟩, ⟨"!==", "", 7, false⟩, ⟨"**", "=", 12, true⟩,
    ⟨"<<", "=", 9, false⟩, ⟨">>", "=", 9, false⟩, ⟨"<=", "", 8, false⟩, ⟨">=", "", 8, false⟩,
    ⟨"==", "", 7, false⟩, ⟨"!=", "", 7, false⟩, ⟨"&&", "=", 3, false⟩, ⟨"||", "=", 2, false⟩,
    ⟨"??", "=", 1, false⟩, ⟨"<", "<", 8, false⟩, ⟨">", ">", 8, false⟩, ⟨"+", "+=", 10, false⟩,
    ⟨"-", "-=", 10, false⟩, ⟨"*", "*=", 11, false⟩, ⟨"/", "=", 11, false⟩, ⟨"%", "=", 11, false⟩,
    ⟨"&", "&=", 6, false⟩, ⟨"^", "=", 5, false⟩, ⟨"|", "|=", 4, false⟩]

/-- The level of conditions. -/
def conditionLevel : Nat := 1

/-- The level of operators that are written before their operand. -/
def unaryLevel : Nat := 13

/-- The binary operator at the next token, with its token and the place after it. -/
def binaryOperator? (c : Cursor) : Option (BinaryOperator × List Node × Cursor) :=
  match binaryOperators.findSome? (fun op => (punctBut op.text op.stopper c).map fun r => (op, r.1, r.2)) with
  | some found => some found
  | none =>
    match wordIn ["in", "instanceof"] c with
    | some (ns, d) => some (⟨"in", "", 8, false⟩, ns, d)
    | none => none

/-- Operators that assign after computing, longer spellings first. -/
def updatingOperators : List String :=
  [">>>=", "<<=", ">>=", "**=", "&&=", "||=", "??=", "+=", "-=", "*=", "/=", "%=", "^=", "&=", "|="]

/-- Kinds of expressions that can be assigned to. -/
def targetKinds : List String :=
  ["identifier", "member_expression", "subscript_expression", "non_null_expression",
    "parenthesized_expression", "undefined"]

/-- The question mark of a condition. It is told apart from an optional access, from the operator of
absent values, and from the mark of an optional parameter. -/
private def conditionMark (typed : Bool) : Rule := fun c =>
  match punct "?" c with
  | none => none
  | some (ns, d) =>
    match d.rest with
    | '?' :: _ => none
    | _ =>
      let e := d.skipWhile isBlank
      match e.rest with
      | '.' :: ch :: _ => if ch.isDigit then some (ns, d) else none
      | '.' :: [] => none
      | ch :: _ => if typed && (ch == ':' || ch == ')' || ch == ',') then none else some (ns, d)
      | [] => some (ns, d)

/-- The mark of an optional access. -/
private def chainMark : Rule := fun c =>
  match punct "?." c with
  | none => none
  | some (ns, d) =>
    match d.peek? with
    | some ch => if ch.isDigit then none else some (ns, d)
    | none => some (ns, d)

/-- Whether the next token can start an operand. -/
private def operandFollows (c : Cursor) : Bool :=
  match c.nextWord? with
  | some (_, w, _) => !(["as", "satisfies", "in", "instanceof", "of"].contains w)
  | none =>
    match c.skipTrivia.peek? with
    | some ch => ch.isDigit || "\"'`([\x7b</+-!~@#".toList.contains ch
    | none => false

namespace Grammar

/-- A node that starts with `n`, the rest being read by `p`. -/
private def onto (kind fieldName : String) (n : Node) (p : Rule) (c : Cursor) : Option (Node × Cursor) :=
  match p c with
  | some (ns, d) => some (Node.branch kind n.start d.offset (n.inField fieldName :: ns), d)
  | none => none

private def property : Rule := field "property" (privateName <|> name "property_identifier" [])

private def indexing (g : Grammar) : Rule :=
  punct "[" ++ field "index" (g.expressions .inner) ++ punct "]"

/-- A member access, an index or a template after an operand. -/
private def access (g : Grammar) (n : Node) (c : Cursor) : Option (Node × Cursor) :=
  let chain := field "optional_chain" (node "optional_chain" chainMark)
  onto "member_expression" "object" n (punctBut "." "." ++ property) c <|>
    onto "member_expression" "object" n (chain ++ property) c <|>
    onto "subscript_expression" "object" n g.indexing c <|>
    onto "subscript_expression" "object" n (chain ++ g.indexing) c <|>
    onto "call_expression" "function" n (field "arguments" (templateString g)) c

/-- A call after an operand. -/
private def call (g : Grammar) (n : Node) (c : Cursor) : Option (Node × Cursor) :=
  let types := if g.dialect.typed then opt (field "type_arguments" g.typeArguments) else nothing
  onto "call_expression" "function" n (field "arguments" g.arguments) c <|>
    (if g.dialect.typed then
      onto "call_expression" "function" n
        (field "type_arguments" g.typeArguments ++ field "arguments" g.arguments) c
    else none) <|>
    onto "call_expression" "function" n (chainMark ++ types ++ field "arguments" g.arguments) c

/-- Type arguments that are applied without a call. -/
private def instantiation (g : Grammar) (n : Node) (c : Cursor) : Option (Node × Cursor) :=
  if g.dialect.typed then
    match field "type_arguments" g.typeArguments c with
    | some (ns, d) =>
      if operandFollows d then none
      else some (Node.branch "instantiation_expression" n.start d.offset (n :: ns), d)
    | none => none
  else none

/-- A step of one up or down after an operand. -/
private def increment (n : Node) (c : Cursor) : Option (Node × Cursor) :=
  onto "update_expression" "argument" n (field "operator" (punct "++" <|> punct "--")) c

/-- A cast or a non-null mark after an operand. -/
private def cast (g : Grammar) (n : Node) (c : Cursor) : Option (Node × Cursor) :=
  if g.dialect.typed then
    let constant := word "as" ++ word "const"
    let plain (p : Option (List Node × Cursor)) (kind : String) : Option (Node × Cursor) :=
      p.map fun r => (Node.branch kind n.start r.2.offset (n :: r.1), r.2)
    plain (punctBut "!" "=" c) "non_null_expression" <|>
      plain ((constant <|> (word "as" ++ g.rule .type)) c) "as_expression" <|>
      plain ((word "satisfies" ++ g.rule .type) c) "satisfies_expression"
  else none

/-- An assignment to the operand. -/
private def assignment (g : Grammar) (m : Mode) (n : Node) (c : Cursor) : Option (Node × Cursor) :=
  if targetKinds.contains n.kind then
    let value := field "right" (g.expression m)
    onto "assignment_expression" "left" n (equalsSign ++ value) c <|>
      onto "augmented_assignment_expression" "left" n
        (field "operator" (oneOf (updatingOperators.map punct)) ++ value) c
  else none

/-- A condition whose first part is the operand. -/
private def condition (g : Grammar) (m : Mode) (n : Node) (c : Cursor) : Option (Node × Cursor) :=
  let rest (inside : Mode) := conditionMark g.dialect.typed ++
    field "consequence" (g.expression inside) ++ punct ":" ++
    field "alternative" (g.rule (.expression m conditionLevel false))
  onto "ternary_expression" "condition" n (rest .inner) c <|>
    (if g.dialect.typed then
      onto "ternary_expression" "condition" n (rest { Mode.inner with resultType := false }) c
    else none)

/-- A binary expression whose left side is the operand. -/
private def binary (g : Grammar) (m : Mode) (least : Nat) (n : Node) (c : Cursor) :
    Option (Node × Cursor) :=
  match binaryOperator? c with
  | none => none
  | some (op, ns, d) =>
    if op.level < least then none
    else
      let right := if op.rightward then g.rule (.expression m op.level false)
        else g.rule (.expression m (op.level + 1) true)
      onto "binary_expression" "left" n (field "operator" (given ns d) ++ field "right" right) c

/-- One step to the right of an operand. -/
private def growth (g : Grammar) (m : Mode) (least : Nat) (closed : Bool) (n : Node) (c : Cursor) :
    Option (Node × Cursor) :=
  if m.semicolon && g.expressionEnds c then none
  else if m.heritage && g.dialect.typed && (g.typeArguments c).isSome then g.call n c
  else
    g.access n c <|> g.call n c <|> g.instantiation n c <|> increment n c <|>
      (if closed then none else g.cast n c) <|> g.assignment m n c <|>
      (if least ≤ conditionLevel then g.condition m n c else none) <|> g.binary m least n c

/-- Elements of a list, spread or not. -/
private def element (g : Grammar) : Rule :=
  node "spread_element" (punct "..." ++ g.expression .inner) <|> g.expression .inner

private def arrayLiteral (g : Grammar) : Rule := listOf "array" "[" "]" g.element

private def objectLiteral (g : Grammar) : Rule :=
  let shorthand := name "shorthand_property_identifier"
    (if g.dialect.typed then [] else reservedWords)
  let member := node "spread_element" (punct "..." ++ g.expression .inner) <|>
    node "pair" (field "key" g.memberName ++ punct ":" ++ field "value" (g.expression .inner)) <|>
    g.method false <|> shorthand
  listOf "object" "\x7b" "\x7d" member

/-- An assignment to a pattern in brackets. -/
private def patternAssignment (g : Grammar) (m : Mode) : Rule :=
  node "assignment_expression"
    (field "left" g.destructuring ++ equalsSign ++ field "right" (g.expression m))

/-- A literal in brackets, unless it is the target of an assignment. -/
private def bracketed (g : Grammar) (m : Mode) (literal : Rule) : Rule := fun c =>
  match literal c with
  | some (ns, d) =>
    if (equalsSign d).isSome then (g.patternAssignment m <|> given ns d) c else some (ns, d)
  | none => g.patternAssignment m c

/-- The body of an arrow function. -/
private def arrowBody (g : Grammar) (m : Mode) : Rule :=
  punct "=>" ++ field "body" (g.rule .block <|> g.expression m)

/-- An arrow function with parameters in parentheses. -/
private def arrow (g : Grammar) (m : Mode) : Rule :=
  let signature :=
    if m.resultType then g.callSignature
    else (if g.dialect.typed then opt (field "type_parameters" g.typeParameters) else nothing) ++
      field "parameters" (g.rule .parameters)
  node "arrow_function" (opt (word "async") ++ signature ++ g.arrowBody m)

/-- An arrow function of one plain name. -/
private def shortArrow (g : Grammar) (m : Mode) : Rule :=
  node "arrow_function"
    (opt (word "async" ++ notAhead (punct "=>")) ++ field "parameter" g.bindingName ++ g.arrowBody m)

/-- A function in an expression. -/
private def functionExpression (g : Grammar) : Rule :=
  let fnName := opt (field "name" g.bindingName)
  let body := g.callSignature ++ field "body" (g.rule .block)
  node "generator_function" (opt (word "async") ++ word "function" ++ punct "*" ++ fnName ++ body) <|>
    node "function_expression" (opt (word "async") ++ word "function" ++ fnName ++ body)

private def parenthesized (g : Grammar) : Rule :=
  let plain := node "parenthesized_expression" (punct "(" ++ g.expressions .inner ++ punct ")")
  if g.dialect.typed then
    plain <|>
      node "parenthesized_expression"
        (punct "(" ++ g.expression .inner ++ field "type" g.typeAnnotation ++ punct ")")
  else plain

/-- An expression in parentheses. -/
def parenthesizedExpression (g : Grammar) : Rule := g.parenthesized

/-- Operands that a word starts. -/
private def wordOperand (g : Grammar) (m : Mode) (w : String) : Rule :=
  if ["this", "super", "true", "false", "null", "undefined"].contains w then wordNode w w
  else if w == "function" then g.functionExpression
  else if w == "class" then g.classExpression
  else if w == "import" then
    node "meta_property" (word "import" ++ punct "." ++ word "meta") <|> wordNode "import" "import"
  else if w == "new" then node "meta_property" (word "new" ++ punct "." ++ word "target")
  else if w == "async" then
    g.functionExpression <|> g.shortArrow m <|> g.arrow m <|> g.operandName
  else g.shortArrow m <|> g.operandName

/-- An operand without operators around it. -/
private def primary (g : Grammar) (m : Mode) : Rule := fun c =>
  let d := c.skipTrivia
  match d.peek? with
  | none => none
  | some ch =>
    if ch == '(' then (g.arrow m <|> g.parenthesized) d
    else if ch == '[' then g.bracketed m g.arrayLiteral d
    else if ch == '\x7b' then g.bracketed m g.objectLiteral d
    else if ch == '"' || ch == '\'' then stringLiteral d
    else if ch == '`' then templateString g d
    else if ch == '/' then regexLiteral d
    else if ch == '@' then g.classExpression d
    else if ch == '#' then (privateName ++ ahead (word "in")) d
    else if ch == '<' then
      ((if g.dialect.typed then g.arrow m else refuse) <|>
        (if g.dialect.elements then g.rule .element else refuse)) d
    else if ch.isDigit || ch == '.' then number d
    else
      match d.nextWord? with
      | some (_, w, _) => g.wordOperand m w d
      | none => none

/-- A constructor with its arguments. -/
private def construction (g : Grammar) (m : Mode) : Nat → Rule
  | 0 => refuse
  | fuel + 1 => fun c =>
    match word "new" c with
    | some (kw, d) =>
      match (g.construction m fuel <|> g.primary m) d with
      | some ([n], e) =>
        let (target, f) := grow g.access n e
        let types := if g.dialect.typed then opt (field "type_arguments" g.typeArguments) else nothing
        let rest := (types ++ field "arguments" g.arguments) <|> types
        node "new_expression"
          (given kw d ++ field "constructor" (given [target] f) ++ rest) c
      | _ => none
    | none => none

/-- A cast that is written before its operand. Of what follows only calls belong to the operand. -/
private def typeAssertion (g : Grammar) (m : Mode) : Rule := fun c =>
  match g.typeArguments c with
  | some (types, d) =>
    match (g.primary m) d with
    | some ([n], e) =>
      let (target, f) := grow g.call n e
      node "type_assertion" (given (types ++ [target]) f) c
    | _ => node "type_assertion" (given types d ++ g.rule (.expression m unaryLevel true)) c
  | none => none

/-- An operand with the operators before it. -/
private def operand (g : Grammar) (m : Mode) : Rule := fun c =>
  let d := c.skipTrivia
  let unary (mark : Rule) : Rule := node "unary_expression"
    (field "operator" mark ++ field "argument" (g.rule (.expression m unaryLevel true)))
  match d.peek? with
  | none => none
  | some ch =>
    if ch == '+' || ch == '-' then
      (node "update_expression"
        (field "operator" (punct "++" <|> punct "--") ++
          field "argument" (g.rule (.expression m (unaryLevel + 1) true))) <|>
        unary (punct "+" <|> punct "-")) d
    else if ch == '!' || ch == '~' then unary (punct "!" <|> punct "~") d
    else if ch == '<' && g.dialect == .typescript then (g.arrow m <|> g.typeAssertion m) d
    else
      match d.nextWord? with
      | some (_, w, e) =>
        if ["typeof", "void", "delete"].contains w then unary (word w) d
        else if w == "await" then
          node "await_expression" (word w ++ g.rule (.expression m unaryLevel false)) d
        else if w == "yield" then
          let ends := m.semicolon && g.expressionEnds e
          node "yield_expression"
            (word w ++ (if ends then nothing else (punct "*" ++ g.expression m) <|> opt (g.expression m))) d
        else if w == "new" then (g.construction m (d.left + 1) <|> g.primary m) d
        else g.primary m d
      | none => g.primary m d

/-- An expression whose binary operators have at least the level `least`. -/
def expressionRule (g : Grammar) (m : Mode) (least : Nat) (closed : Bool) : Rule := fun c =>
  match g.operand m c with
  | some ([n], d) =>
    let (r, e) := grow (g.growth m least closed) n d
    if r.kind == "import" then none else some ([r], e)
  | _ => none

end Grammar

end CorpusShape.Syntax
