import CorpusShape.Syntax.Grammar

/-!
# Automatic semicolons

A statement ends with a semicolon, or where one is understood: at the end of the text, before a
closing brace, and at a line end that no continuation follows. What continues a line differs between
the typed dialects and the other one, and after an expression from after other parts of a statement.
-/
namespace CorpusShape.Syntax

/-- What stands before the place of a semicolon. -/
structure SemicolonPlace where
  typed : Bool
  /-- An expression ends here, so that an operator could go on. -/
  afterExpression : Bool
  /-- A function's signature ends here, so that its body could follow. -/
  afterSignature : Bool

namespace Cursor

/-- Whether the text from here starts with the word `w` and nothing that would prolong it. -/
private def startsWithOperatorWord (c : Cursor) (w : String) : Bool :=
  c.startsWith w && match (c.advanceBy w.length).peek? with
    | some ch => !(ch.isAlpha || ch.val > 0x7F)
    | none => true

/-- Whether what stands here, after a line end, does not continue the line before. -/
def startsNewStatement (place : SemicolonPlace) (c : Cursor) : Bool :=
  match c.rest with
  | [] => true
  | ch :: rest =>
    if "`,;*%><=?^|&/:".toList.contains ch then false
    else if ch == '.' then
      !place.typed && (match rest with | d :: _ => d.isDigit | [] => false)
    else if ch == '\x7b' then !place.afterSignature
    else if ch == '(' || ch == '[' then place.typed && !place.afterExpression
    else if ch == '+' || ch == '-' then rest.head? == some ch
    else if ch == '!' then rest.head? != some '='
    else !(c.startsWithOperatorWord "in" || c.startsWithOperatorWord "instanceof")

/-- The place after blanks and comments, or `none` before a stroke that starts no comment. -/
private def afterTrivia? (c : Cursor) : Option Cursor :=
  let d := c.skipTrivia
  if d.peek? == some '/' then none else some d

/-- Whether a semicolon is understood here. -/
def endsStatement (place : SemicolonPlace) (c : Cursor) : Bool :=
  let d := c.skipWhile fun ch => isBlank ch && ch != '\n' && (place.typed || !isLineSeparator ch)
  match d.rest with
  | [] => true
  | '\x7d' :: _ =>
    !place.typed || place.afterExpression ||
      (d.advance.skipWhile isBlank).peek? != some ':'
  | ch :: _ =>
    if ch == '\n' || isLineSeparator ch then
      match d.advance.afterTrivia? with
      | none => false
      | some e => e.startsNewStatement place
    else
      match d.afterComment? with
      | none => false
      | some e =>
        let ended := !place.typed && !place.afterExpression &&
          ((d.charsTo e).any fun x => x == '\n' || isLineSeparator x) &&
          (match e.peek? with | some x => x != ',' && x != '=' | none => true)
        if ended then true
        else if _h : e.left < c.left then endsStatement place e
        else false
termination_by c.left

end Cursor

namespace Grammar

/-- Whether a semicolon is understood after an expression. -/
def expressionEnds (g : Grammar) (c : Cursor) : Bool :=
  c.endsStatement ⟨g.dialect.typed, true, false⟩

/-- Whether a semicolon is understood after something else than an expression. -/
def partEnds (g : Grammar) (c : Cursor) : Bool :=
  c.endsStatement ⟨g.dialect.typed, false, false⟩

/-- A written or understood semicolon at a place of the given kind. -/
private def semicolonAt (place : SemicolonPlace) : Rule := fun c =>
  match punct ";" c with
  | some r => some r
  | none => if c.endsStatement place then some ([], c) else none

/-- The semicolon after an expression. -/
def semicolonAfterExpression (g : Grammar) : Rule := semicolonAt ⟨g.dialect.typed, true, false⟩

/-- The semicolon after something else than an expression. -/
def semicolon (g : Grammar) : Rule := semicolonAt ⟨g.dialect.typed, false, false⟩

/-- The semicolon after the signature of a function. -/
def semicolonAfterSignature (g : Grammar) : Rule := semicolonAt ⟨g.dialect.typed, false, true⟩

/-- A word that starts something only on the same line; it could be a name as well. -/
def softWord (g : Grammar) (w : String) : Rule := fun c =>
  match word w c with
  | some (ns, d) => if g.expressionEnds d then none else some (ns, d)
  | none => none

end Grammar

end CorpusShape.Syntax
