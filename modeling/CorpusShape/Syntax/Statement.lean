import CorpusShape.Syntax.Expression

/-!
# Statements and declarations

The word that starts a statement decides which rules are tried for it. A word that could be a name as
well starts a declaration only if the declaration follows on the same line; otherwise it starts an
expression.
-/
namespace CorpusShape.Syntax

open Rule

namespace Grammar

/-- A block of statements in braces. -/
def blockRule (g : Grammar) : Rule :=
  node "statement_block" (punct "\x7b" ++ many (g.rule .statement) ++ punct "\x7d")

/-- One name or pattern of a declaration, with its value. The semicolon that may follow depends on
whether there is a value. -/
private def declarator (g : Grammar) : Rule :=
  let annotation := if g.dialect.typed then opt (field "type" g.typeAnnotation) else nothing
  let definite := if g.dialect.typed then
      field "name" g.bindingName ++ punctBut "!" "=" ++ field "type" g.typeAnnotation
    else refuse
  node "variable_declarator"
    (definite <|>
      (field "name" g.binding ++ annotation ++ opt (equalsSign ++ field "value" (g.expression .tail))))

/-- Whether the last of the nodes holds a value. -/
private def endsWithValue (ns : List Node) : Bool :=
  match ns.getLast? with
  | some n => (n.child? "value").isSome
  | none => false

/-- Declarators with the semicolon after them. -/
private def declarators (g : Grammar) : Rule := fun c =>
  match sepBy1 g.declarator (punct ",") c with
  | some (ns, d) =>
    (given ns d ++ (if endsWithValue ns then g.semicolonAfterExpression else g.semicolon)) c
  | none => none

private def lexicalDeclaration (g : Grammar) : Rule :=
  node "lexical_declaration" (field "kind" (g.softWord "let" <|> word "const") ++ g.declarators)

private def variableDeclaration (g : Grammar) : Rule :=
  node "variable_declaration" (word "var" ++ g.declarators)

/-- A declaration whose value is disposed of at the end of its block. -/
private def usingDeclaration (g : Grammar) : Rule :=
  node "using_declaration"
    (field "kind" (opt (word "await") ++ g.softWord "using") ++ g.declarators)

private def functionDeclaration (g : Grammar) : Rule :=
  let body := field "name" g.bindingName ++ g.callSignature ++ field "body" (g.rule .block)
  node "generator_function_declaration"
      (opt (g.softWord "async") ++ word "function" ++ punct "*" ++ body) <|>
    node "function_declaration" (opt (g.softWord "async") ++ word "function" ++ body)

/-- A function without a body. -/
private def functionSignature (g : Grammar) : Rule :=
  node "function_signature"
    (opt (g.softWord "async") ++ word "function" ++ field "name" g.bindingName ++ g.callSignature ++
      g.semicolonAfterSignature)

/-- Names joined by points, such as `A.B.C`. -/
private def nestedName : Rule := fun c =>
  match name "identifier" [] c with
  | some ([n], d) =>
    let step : Node → Cursor → Option (Node × Cursor) := fun n c =>
      match (punct "." ++ field "property" (name "property_identifier" [])) c with
      | some (ns, d) =>
        some (Node.branch "nested_identifier" n.start d.offset (n.inField "object" :: ns), d)
      | none => none
    let (m, e) := grow step n d
    some ([m], e)
  | _ => none

/-- A namespace, or a module by name. -/
private def moduleDeclaration (g : Grammar) (kind keyword : String) : Rule :=
  node kind
    (g.softWord keyword ++ field "name" (stringLiteral <|> nestedName) ++
      opt (field "body" (g.rule .block)))

private def typeAlias (g : Grammar) : Rule :=
  node "type_alias_declaration"
    (g.softWord "type" ++ field "name" declaredTypeName ++
      opt (field "type_parameters" g.typeParameters) ++ equalsSign ++ field "value" (g.rule .type) ++
      g.semicolon)

private def enumDeclaration (g : Grammar) : Rule :=
  let member : Rule := fun c =>
    match g.memberName c with
    | some ([n], d) =>
      match (equalsSign ++ field "value" (g.expression .inner)) d with
      | some (ns, e) => some ([Node.branch "enum_assignment" n.start e.offset (n.inField "name" :: ns)], e)
      | none => some ([n.inField "name"], d)
    | _ => none
  node "enum_declaration"
    (opt (word "const") ++ word "enum" ++ field "name" (name "identifier" []) ++
      field "body" (node "enum_body"
        (punct "\x7b" ++ opt (sepBy1 member (punct ",") ++ opt (punct ",")) ++ punct "\x7d")))

private def interfaceDeclaration (g : Grammar) : Rule :=
  node "interface_declaration"
    (word "interface" ++ field "name" declaredTypeName ++
      opt (field "type_parameters" g.typeParameters) ++
      opt (node "extends_type_clause"
        (word "extends" ++ sepBy1 (field "type" g.extendedType) (punct ","))) ++
      field "body" (g.typeMembers "interface_body"))

private def importAlias (g : Grammar) : Rule :=
  node "import_alias"
    (word "import" ++ name "identifier" [] ++ equalsSign ++ nestedName ++ g.semicolon)

/-- A declaration that the word `w` starts. -/
private def plainDeclaration (g : Grammar) (w : String) : Rule :=
  let typed := g.dialect.typed
  match w with
  | "function" => g.functionDeclaration <|> (if typed then g.functionSignature else refuse)
  | "async" => g.functionDeclaration <|> (if typed then g.functionSignature else refuse)
  | "class" => g.classDeclaration
  | "let" => g.lexicalDeclaration
  | "const" => (if typed then g.enumDeclaration else refuse) <|> g.lexicalDeclaration
  | "var" => g.variableDeclaration
  | "abstract" => if typed then g.abstractClass else refuse
  | "module" => if typed then g.moduleDeclaration "module" "module" else refuse
  | "namespace" => if typed then g.moduleDeclaration "internal_module" "namespace" else refuse
  | "type" => if typed then g.typeAlias else refuse
  | "enum" => if typed then g.enumDeclaration else refuse
  | "interface" => if typed then g.interfaceDeclaration else refuse
  | "import" => if typed then g.importAlias else refuse
  | "using" => if typed then refuse else g.usingDeclaration
  | "await" => if typed then refuse else g.usingDeclaration
  | _ => refuse

/-- A declaration of something that is defined elsewhere. -/
private def ambient (g : Grammar) (declaration : Rule) : Rule :=
  node "ambient_declaration"
    (g.softWord "declare" ++
      (declaration <|> (word "global" ++ g.rule .block) <|>
        (word "module" ++ punct "." ++ name "property_identifier" [] ++ punct ":" ++ g.rule .type ++
          g.semicolon)))

/-- A declaration, ambient declarations nested up to the given depth. -/
private def declarationTo (g : Grammar) : Nat → Rule
  | 0 => refuse
  | depth + 1 => fun c =>
    let d := c.skipTrivia
    if d.peek? == some '@' then
      (g.classDeclaration <|> (if g.dialect.typed then g.abstractClass else refuse)) d
    else
      match d.nextWord? with
      | none => none
      | some (_, w, _) =>
        if w == "declare" && g.dialect.typed then g.ambient (g.declarationTo depth) d
        else g.plainDeclaration w d

/-- A declaration. -/
def declaration (g : Grammar) : Rule := g.declarationTo 4

/-- One expression or several as a statement. -/
private def expressionStatement (g : Grammar) : Rule :=
  node "expression_statement" (g.expressions .tail ++ g.semicolonAfterExpression)

/-- A namespace as a statement. -/
private def namespaceStatement (g : Grammar) : Rule :=
  node "expression_statement" (g.plainDeclaration "namespace" ++ g.semicolonAfterExpression)

private def labeledStatement (g : Grammar) : Rule :=
  node "labeled_statement"
    (field "label" (name "statement_identifier" (if g.dialect.typed then [] else reservedWords)) ++
      punct ":" ++ field "body" (g.rule .statement))

private def emptyStatement : Rule := node "empty_statement" (punct ";")

private def ifStatement (g : Grammar) : Rule :=
  node "if_statement"
    (word "if" ++ field "condition" g.parenthesizedExpression ++
      field "consequence" (g.rule .statement) ++
      opt (field "alternative" (node "else_clause" (word "else" ++ g.rule .statement))))

private def switchStatement (g : Grammar) : Rule :=
  let body := many (field "body" (g.rule .statement))
  let case_ := node "switch_case"
    (word "case" ++ field "value" (g.expressions .inner) ++ punct ":" ++ body)
  let default_ := node "switch_default" (word "default" ++ punct ":" ++ body)
  node "switch_statement"
    (word "switch" ++ field "value" g.parenthesizedExpression ++
      field "body" (node "switch_body" (punct "\x7b" ++ many (case_ <|> default_) ++ punct "\x7d")))

/-- The head of a loop over the members or the values of an object. -/
private def iterationHead (g : Grammar) : Rule :=
  let of := field "operator" (word "in" <|> word "of") ++ field "right" (g.expressions .inner) ++ punct ")"
  let typed := if g.dialect.typed then opt (field "type" g.typeAnnotation) else nothing
  (punct "(" ++ field "kind" (word "let" <|> word "const") ++ field "left" g.binding ++ typed ++ of) <|>
    (punct "(" ++ field "kind" (word "var") ++ field "left" g.binding ++ typed ++
      opt (equalsSign ++ field "value" (g.rule (.expression .inner 9 false))) ++ of) <|>
    (punct "(" ++ field "left" (g.rule .pattern <|> g.parenthesizedExpression) ++ of)

private def forStatement (g : Grammar) : Rule :=
  let start := g.lexicalDeclaration <|> g.variableDeclaration <|> emptyStatement <|>
    node "expression_statement" (g.expressions .inner ++ punct ";")
  let test := emptyStatement <|> node "expression_statement" (g.expressions .inner ++ punct ";")
  node "for_in_statement"
      (word "for" ++ opt (word "await") ++ g.iterationHead ++ field "body" (g.rule .statement)) <|>
    node "for_statement"
      (word "for" ++ punct "(" ++ field "initializer" start ++ field "condition" test ++
        opt (field "increment" (g.expressions .inner)) ++ punct ")" ++ field "body" (g.rule .statement))

private def whileStatement (g : Grammar) : Rule :=
  node "while_statement"
    (word "while" ++ field "condition" g.parenthesizedExpression ++ field "body" (g.rule .statement))

private def doStatement (g : Grammar) : Rule :=
  node "do_statement"
    (word "do" ++ field "body" (g.rule .statement) ++ word "while" ++
      field "condition" g.parenthesizedExpression ++ opt (punct ";"))

private def tryStatement (g : Grammar) : Rule :=
  let typed := if g.dialect.typed then opt (field "type" g.typeAnnotation) else nothing
  let handler := node "catch_clause"
    (word "catch" ++ opt (punct "(" ++ field "parameter" g.binding ++ typed ++ punct ")") ++
      field "body" (g.rule .block))
  let finalizer := node "finally_clause" (word "finally" ++ field "body" (g.rule .block))
  node "try_statement"
    (word "try" ++ field "body" (g.rule .block) ++ opt (field "handler" handler) ++
      opt (field "finalizer" finalizer))

private def withStatement (g : Grammar) : Rule :=
  node "with_statement"
    (word "with" ++ field "object" g.parenthesizedExpression ++ field "body" (g.rule .statement))

/-- A jump, with or without a label. -/
private def jump (g : Grammar) (kind keyword : String) : Rule := fun c =>
  match word keyword c with
  | none => none
  | some (kw, d) =>
    let label := if g.partEnds d then nothing
      else opt (field "label" (name "statement_identifier" []))
    node kind (given kw d ++ label ++ g.semicolon) c

private def returnStatement (g : Grammar) : Rule := fun c =>
  match word "return" c with
  | none => none
  | some (kw, d) =>
    let value := (g.expressions .tail ++ g.semicolonAfterExpression) <|> g.semicolon
    node "return_statement" (given kw d ++ (if g.partEnds d then g.semicolon else value)) c

private def throwStatement (g : Grammar) : Rule :=
  node "throw_statement" (word "throw" ++ g.expressions .tail ++ g.semicolonAfterExpression)

/-- A string after the word `from`. -/
private def source : Rule := word "from" ++ field "source" stringLiteral

/-- A name that a module gives to what it exports. -/
private def exportedName (g : Grammar) : Rule :=
  stringLiteral <|>
    if g.dialect.typed then name "identifier" [] else word "default" <|> name "identifier" reservedWords

/-- The word for imports of types, where something to import follows. -/
private def typeOnly (g : Grammar) (p : Rule) : Rule :=
  if g.dialect.typed then ((word "type" <|> word "typeof") ++ p) <|> p else p

private def importSpecifier (g : Grammar) : Rule :=
  let alias_ := word "as" ++ field "alias" g.bindingName
  node "import_specifier"
    (g.typeOnly ((field "name" g.exportedName ++ alias_) <|>
      (field "name" g.bindingName ++ notAhead (name "identifier" []))))

private def importClause (g : Grammar) : Rule :=
  let all := node "namespace_import" (punct "*" ++ word "as" ++ g.bindingName)
  let named := node "named_imports"
    (punct "\x7b" ++ opt (sepBy1 g.importSpecifier (punct ",") ++ opt (punct ",")) ++ punct "\x7d")
  node "import_clause"
    (all <|> named <|> (g.bindingName ++ opt (punct "," ++ (all <|> named))))

private def importStatement (g : Grammar) : Rule :=
  let required := if g.dialect.typed then
      node "import_require_clause"
        (name "identifier" [] ++ equalsSign ++ word "require" ++ punct "(" ++
          field "source" stringLiteral ++ punct ")")
    else refuse
  let what := (g.importClause ++ source) <|> required <|> field "source" stringLiteral
  let attributes := node "import_attribute"
    ((word "with" <|> word "assert") ++ ahead (punct "\x7b") ++ g.rule (.expression .inner unaryLevel true))
  node "import_statement"
    (word "import" ++ g.typeOnly what ++ opt attributes ++ g.semicolon)

private def exportClause (g : Grammar) : Rule :=
  let exported := field "name" g.exportedName ++ opt (word "as" ++ field "alias" g.exportedName)
  let specifier := node "export_specifier"
    (g.typeOnly (exported ++ ahead (punct "," <|> punct "\x7d")))
  node "export_clause"
    (punct "\x7b" ++ opt (sepBy1 specifier (punct ",") ++ opt (punct ",")) ++ punct "\x7d")

private def exportStatement (g : Grammar) : Rule :=
  let all := punct "*" ++ source
  let named := node "namespace_export" (punct "*" ++ word "as" ++ g.exportedName) ++ source
  let clause := (g.exportClause ++ source) <|> g.exportClause
  let default_ := word "default" ++
    (field "declaration" g.declaration <|>
      (field "value" (g.expression .tail) ++ g.semicolonAfterExpression))
  let typedOnly := if g.dialect.typed then
      (word "type" ++ clause ++ g.semicolon) <|>
        (word "type" ++ (all <|> named) ++ g.semicolon) <|>
        (equalsSign ++ g.expression .tail ++ g.semicolonAfterExpression) <|>
        (word "as" ++ word "namespace" ++ name "identifier" [] ++ g.semicolon)
    else refuse
  node "export_statement"
      (word "export" ++ ((all <|> named <|> clause) ++ g.semicolon)) <|>
    node "export_statement" (word "export" ++ typedOnly) <|>
    node "export_statement"
      (g.decorators ++ word "export" ++ (default_ <|> field "declaration" g.declaration))

/-- A statement that starts with the word `w`. -/
private def wordStatement (g : Grammar) (w : String) : Rule :=
  match w with
  | "export" => g.exportStatement
  | "import" => g.importStatement <|> g.declaration <|> g.expressionStatement
  | "if" => g.ifStatement
  | "switch" => g.switchStatement
  | "for" => g.forStatement
  | "while" => g.whileStatement
  | "do" => g.doStatement
  | "try" => g.tryStatement
  | "with" => g.withStatement
  | "break" => g.jump "break_statement" "break"
  | "continue" => g.jump "continue_statement" "continue"
  | "return" => g.returnStatement
  | "throw" => g.throwStatement
  | "debugger" => node "debugger_statement" (word "debugger" ++ g.semicolon)
  | "function" => g.declaration <|> g.expressionStatement
  | "class" => g.declaration <|> g.expressionStatement
  | "namespace" => g.namespaceStatement <|> g.labeledStatement <|> g.expressionStatement
  | _ =>
    if statementWords.contains w && (g.dialect.typed || reservedWords.contains w) then g.declaration
    else g.declaration <|> g.labeledStatement <|> g.expressionStatement

/-- A statement. -/
def statementRule (g : Grammar) : Rule := fun c =>
  let d := c.skipTrivia
  match d.peek? with
  | none => none
  | some ch =>
    if ch == ';' then emptyStatement d
    else if ch == '\x7b' then (g.rule .block <|> g.expressionStatement) d
    else if ch == '@' then (g.exportStatement <|> g.declaration <|> g.expressionStatement) d
    else
      match d.nextWord? with
      | some (_, w, _) => g.wordStatement w d
      | none => g.expressionStatement d

end Grammar

end CorpusShape.Syntax
