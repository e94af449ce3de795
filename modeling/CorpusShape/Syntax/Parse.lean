import CorpusShape.Syntax.Statement

/-!
# Syntax trees of source texts

A source text has a syntax tree if the rules of its dialect read all of it. Comments are put into the
tree afterwards: a comment between two children of a node is a child of that node.
-/
namespace CorpusShape.Syntax

open Rule

namespace Grammar

/-- The rule for a goal, given the rules for the goals inside it. -/
def ruleFor (g : Grammar) : Goal → Rule
  | .expression m least closed => g.expressionRule m least closed
  | .type => g.typeExpression
  | .pattern => g.patternRule
  | .parameters => g.parametersRule
  | .block => g.blockRule
  | .statement => g.statementRule
  | .classBody => g.classBodyRule
  | .element => g.elementRule

/-- The grammar of a dialect whose goals nest up to the given depth. -/
def ofDepth (d : Dialect) : Nat → Grammar
  | 0 => ⟨d, fun _ => refuse⟩
  | depth + 1 => ⟨d, fun goal c => (ofDepth d depth).ruleFor goal c⟩

end Grammar

namespace Cursor

/-- The place at the byte offset `offset`, from a place before it. -/
def seek (offset : Nat) (c : Cursor) : Cursor :=
  go c.rest c.left c.offset
where
  go : List Char → Nat → Nat → Cursor
    | [], left, at_ => ⟨[], left, at_⟩
    | ch :: rest, left, at_ =>
      if offset ≤ at_ then ⟨ch :: rest, left, at_⟩ else go rest (left - 1) (at_ + ch.utf8Size)

end Cursor

/-- The comments between a place and the byte offset `stop`, as nodes. -/
private def commentNodes (c : Cursor) (stop : Nat) : List Node :=
  (c.commentsTo stop).map fun r => Node.leaf "comment" r.1 r.2

mutual
/-- The tree with the comments of the text in it; the text is given from a place at or before the
node's start. -/
private def withComments (c : Cursor) : Node → Node
  | ⟨kind, named, missing, field, start, stop, children⟩ =>
    ⟨kind, named, missing, field, start, stop, childrenWithComments (c.seek start) stop children⟩

/-- A list of siblings with the comments between them. -/
private def childrenWithComments (c : Cursor) (stop : Nat) : List Node → List Node
  | [] => []
  | n :: rest =>
    commentNodes c n.start ++ withComments c n :: childrenWithComments (c.seek n.stop) stop rest
end

/-- The place after a first line that names an interpreter. -/
private def afterInterpreterLine (c : Cursor) : List Node × Cursor :=
  if c.startsWith "#!" then
    let d := c.skipWhile fun ch => ch != '\n' && ch != '\r' && !isLineSeparator ch
    ([Node.leaf "hash_bang_line" c.offset d.offset], d)
  else ([], c)

/-- The syntax tree of a source text, or the offset of the first statement that the rules cannot read. -/
def parse (dialect : Dialect) (source : String) : Except Nat Node :=
  let start := Cursor.ofChars source.toList
  let (line, c) := afterInterpreterLine start
  let g := Grammar.ofDepth dialect (16 * (start.left + 16))
  match many (g.rule .statement) c with
  | none => .error c.skipTrivia.offset
  | some (ns, d) =>
    let e := d.skipTrivia
    if e.atEnd then
      let inner := childrenWithComments start e.offset (line ++ ns)
      .ok (Node.branch "program" 0 e.offset (inner ++ commentNodes d e.offset))
    else .error e.offset

end CorpusShape.Syntax
