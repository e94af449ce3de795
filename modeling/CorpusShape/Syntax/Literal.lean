import CorpusShape.Syntax.Grammar

/-!
# Literals

Strings, templates and regular expressions. The text between the marks is kept as leaves, so that
nothing in it is taken for a comment.
-/
namespace CorpusShape.Syntax

namespace Cursor

/-- The place after the escape that starts here with a backslash. -/
def afterEscape? (c : Cursor) : Option Cursor :=
  match c.rest with
  | '\\' :: 'u' :: _ => c.afterUnicodeEscape?
  | '\\' :: 'x' :: a :: b :: _ => if isHexDigit a && isHexDigit b then some (c.advanceBy 4) else none
  | '\\' :: 'x' :: _ => none
  | '\\' :: '\r' :: '\n' :: _ => some (c.advanceBy 3)
  | '\\' :: a :: rest =>
    if isOctalDigit a then some (c.advanceBy (2 + ((rest.take 2).takeWhile isOctalDigit).length))
    else some (c.advanceBy 2)
  | _ => none

/-- The place after the characters of a regular expression, before its closing stroke. -/
def afterRegexBody? (c : Cursor) : Option Cursor :=
  go false c.rest c.left c.offset
where
  go (inClass : Bool) : List Char → Nat → Nat → Option Cursor
    | [], _, _ => none
    | '\n' :: _, _, _ => none
    | '\\' :: ch :: rest, left, offset =>
      if ch == '\n' then none else go inClass rest (left - 2) (offset + 1 + ch.utf8Size)
    | ch :: rest, left, offset =>
      if ch == '/' && !inClass then some ⟨ch :: rest, left, offset⟩
      else go (if ch == '[' then true else if ch == ']' then false else inClass) rest (left - 1)
        (offset + ch.utf8Size)

end Cursor

/-- One run of plain characters, as a leaf. -/
private def fragment (kind : String) (plain : Char → Bool) : Rule := fun c =>
  let d := c.skipWhile plain
  if d.left < c.left then some ([Node.leaf kind c.offset d.offset], d) else none

private def escape : Rule := fun c =>
  c.afterEscape?.map fun d => ([Node.leaf "escape_sequence" c.offset d.offset], d)

/-- The token `text` exactly here. -/
private def here (text : String) : Rule := fun c =>
  if c.startsWith text then
    let d := c.advanceBy text.length
    some ([Node.token text c.offset d.offset], d)
  else none

private def quotedBy (quote : Char) : Rule :=
  let mark := String.singleton quote
  Rule.node "string"
    (punct mark ++
      Rule.many (fragment "string_fragment"
        (fun ch => ch != quote && ch != '\\' && ch != '\n' && ch != '\r') <|> escape) ++
      here mark)

/-- A string literal. -/
def stringLiteral : Rule := quotedBy '"' <|> quotedBy '\''

/-- The plain characters of a template, up to a mark, an escape or a substitution. -/
private def templateChars : Rule := fun c =>
  let d := go c.rest c.left c.offset
  if d.left < c.left then some ([Node.leaf "string_fragment" c.offset d.offset], d) else none
where
  go : List Char → Nat → Nat → Cursor
    | [], left, offset => ⟨[], left, offset⟩
    | ch :: rest, left, offset =>
      if ch == '`' || ch == '\\' then ⟨ch :: rest, left, offset⟩
      else if ch == '$' && rest.head? == some '\x7b' then ⟨ch :: rest, left, offset⟩
      else go rest (left - 1) (offset + ch.utf8Size)

/-- A template whose substitutions are read by `p`. -/
private def templateOf (kind hole : String) (p : Rule) : Rule :=
  Rule.node kind
    (punct "`" ++
      Rule.many (templateChars <|> escape <|> Rule.node hole (here "$\x7b" ++ p ++ punct "\x7d")) ++
      here "`")

/-- A template string. -/
def templateString (g : Grammar) : Rule :=
  templateOf "template_string" "template_substitution" (g.expressions .inner)

/-- A template literal type. -/
def templateType (g : Grammar) : Rule :=
  templateOf "template_literal_type" "template_type" (g.rule .type)

/-- A regular expression literal. -/
def regexLiteral : Rule :=
  Rule.node "regex"
    (punct "/" ++ Rule.field "pattern" body ++ here "/" ++
      Rule.opt (Rule.field "flags" <| fragment "regex_flags" fun ch => 'a' ≤ ch && ch ≤ 'z'))
where
  body : Rule := fun c =>
    match c.afterRegexBody? with
    | some d =>
      if d.left < c.left && c.peek? != some '*' then
        some ([Node.leaf "regex_pattern" c.offset d.offset], d)
      else none
    | none => none

end CorpusShape.Syntax
