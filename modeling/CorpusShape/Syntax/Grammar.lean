import CorpusShape.Syntax.Lexeme

/-!
# Dialects and goals

The three dialects share most rules. A rule that needs another part of the language asks the grammar
for it by its goal; the grammar ties the rules together, and its depth bounds how far they nest.
-/
namespace CorpusShape.Syntax

/-- The dialects of a source text. -/
inductive Dialect where
  | typescript
  | tsx
  | javascript
deriving DecidableEq, Repr, Inhabited

namespace Dialect

/-- Whether the dialect has types. -/
def typed (d : Dialect) : Bool := d != .javascript

/-- Whether the dialect has elements written in angle brackets. -/
def elements (d : Dialect) : Bool := d != .typescript

end Dialect

/-- What surrounds an expression. -/
structure Mode where
  /-- An automatic semicolon may end the expression. -/
  semicolon : Bool
  /-- An arrow function may state its result type. -/
  resultType : Bool
  /-- Type arguments that no call follows are left to the surrounding rule. -/
  heritage : Bool
deriving Inhabited

namespace Mode

/-- Between brackets. -/
def inner : Mode := ⟨false, true, false⟩

/-- At the end of a statement. -/
def tail : Mode := ⟨true, true, false⟩

/-- The base of a class. -/
def base : Mode := ⟨false, true, true⟩

end Mode

/-- The parts of the language that rules ask each other for. -/
inductive Goal where
  /-- An expression whose binary operators have at least the level `least`. A `closed` operand leaves
  a cast or a non-null mark to the expression around it. -/
  | expression (mode : Mode) (least : Nat) (closed : Bool)
  | type
  /-- A target of an assignment or a binding. -/
  | pattern
  | parameters
  | block
  | statement
  | classBody
  | element
deriving Inhabited

/-- A dialect with the rule for each goal. -/
structure Grammar where
  dialect : Dialect
  rule : Goal → Rule

namespace Grammar

/-- One expression. -/
def expression (g : Grammar) (m : Mode) : Rule := g.rule (.expression m 0 false)

/-- One expression, or several divided by commas, which then stand under one node. -/
def expressions (g : Grammar) (m : Mode) : Rule := fun c =>
  match g.expression m c with
  | some ([first], d) =>
    match Rule.many (punct "," ++ g.expression m) d with
    | some ([], _) => some ([first], d)
    | some (rest, e) => some ([Node.branch "sequence_expression" first.start e.offset (first :: rest)], e)
    | none => none
  | _ => none

/-- Several `p` between brackets, divided by commas; places may be empty. -/
def listOf (kind opening closing : String) (p : Rule) : Rule :=
  Rule.node kind
    (punct opening ++ Rule.opt p ++ Rule.many (punct "," ++ Rule.opt p) ++ punct closing)

/-- Words that are never names in the dialect without types. -/
def reservedWords : List String :=
  ["break", "case", "catch", "class", "const", "continue", "debugger", "default", "delete", "do",
    "else", "export", "extends", "false", "finally", "for", "function", "if", "import", "in",
    "instanceof", "new", "null", "return", "super", "switch", "this", "throw", "true", "try",
    "typeof", "var", "void", "while", "with"]

/-- Words that start an expression of their own. -/
def operandWords : List String :=
  ["this", "super", "true", "false", "null", "undefined", "function", "class", "new", "typeof",
    "void", "delete", "await", "yield", "import"]

/-- Words that start a statement of their own. -/
def statementWords : List String :=
  ["export", "import", "if", "switch", "for", "while", "do", "try", "with", "break", "continue",
    "return", "throw", "debugger", "var", "const", "case", "default", "else", "function", "class",
    "enum", "interface", "abstract"]

/-- A name that is bound. -/
def bindingName (g : Grammar) : Rule :=
  name "identifier" (if g.dialect.typed then [] else reservedWords)

/-- The name of an expression. -/
def operandName (g : Grammar) : Rule :=
  name "identifier" (if g.dialect.typed then operandWords else "undefined" :: "await" :: "yield" :: reservedWords)

end Grammar

end CorpusShape.Syntax
