import CorpusShape.Syntax.Type

/-!
# Elements

Elements in angle brackets, with attributes and children. Text between tags is kept as leaves; an
opening and a closing tag need not agree in their names.
-/
namespace CorpusShape.Syntax

open Rule

/-- Characters that end a run of text between tags. -/
private def endsText (ch : Char) : Bool :=
  ch == '<' || ch == '>' || ch == '\x7b' || ch == '\x7d' || ch == '&'

private def elementText : Rule := fun c =>
  let d := c.skipWhile fun ch => !endsText ch
  if d.left < c.left then some ([Node.leaf "jsx_text" c.offset d.offset], d) else none

/-- A character by its name or number, such as `&amp;`. -/
private def characterReference : Rule := fun c =>
  match c.rest with
  | '&' :: rest =>
    let body := rest.takeWhile (· != ';')
    let digits (p : Char → Bool) (most : Nat) (cs : List Char) : Bool :=
      !cs.isEmpty && cs.length ≤ most && cs.all p
    let good := match body with
      | '#' :: 'x' :: cs => digits isHexDigit 6 cs
      | '#' :: 'X' :: cs => digits isHexDigit 6 cs
      | '#' :: cs => digits Char.isDigit 5 cs
      | cs => digits Char.isAlpha 30 cs
    if good && (rest.drop body.length).head? == some ';' then
      let d := c.advanceBy (body.length + 2)
      some ([Node.leaf "html_character_reference" c.offset d.offset], d)
    else none
  | _ => none

/-- One part of the name of a tag or an attribute; it may hold hyphens. -/
private def tagWord (kind : String) : Rule := fun c =>
  let d := c.skipTrivia
  match d.peek? with
  | some ch =>
    if isWordStart ch then
      let e := d.skipWhile fun x => isWordPart x || x == '-'
      some ([Node.leaf kind d.offset e.offset], e)
    else none
  | none => none

private def tagName : Rule := fun c =>
  match tagWord "identifier" c with
  | some ([n], d) =>
    match (many (punct "." ++ tagWord "property_identifier")) d with
    | some ([], _) =>
      match (punct ":" ++ tagWord "identifier") d with
      | some (ns, e) => some ([Node.branch "jsx_namespace_name" n.start e.offset (n :: ns)], e)
      | none => some ([n], d)
    | some (ns, e) => some ([Node.branch "member_expression" n.start e.offset (n :: ns)], e)
    | none => none
  | _ => none

private def attributeName : Rule := fun c =>
  match tagWord "property_identifier" c with
  | some ([n], d) =>
    match (punct ":" ++ tagWord "property_identifier") d with
    | some (ns, e) => some ([Node.branch "jsx_namespace_name" n.start e.offset (n :: ns)], e)
    | none => some ([n], d)
  | _ => none

private def attributeString : Rule := fun c =>
  let d := c.skipTrivia
  match d.rest with
  | quote :: _ =>
    if quote == '"' || quote == '\'' then
      let e := d.advance.skipWhile (· != quote)
      if e.atEnd then none else some ([Node.leaf "string" d.offset e.advance.offset], e.advance)
    else none
  | [] => none

namespace Grammar

/-- An expression in braces, or nothing. -/
private def hole (g : Grammar) : Rule :=
  node "jsx_expression"
    (punct "\x7b" ++
      opt (node "spread_element" (punct "..." ++ g.expression .inner) <|> g.expressions .inner) ++
      punct "\x7d")

private def tagAttribute (g : Grammar) : Rule :=
  node "jsx_attribute"
      (attributeName ++ opt (punct "=" ++ (attributeString <|> g.hole <|> g.rule .element))) <|> g.hole

private def child (g : Grammar) : Rule :=
  elementText <|> characterReference <|> g.hole <|> (notAhead (punct "</") ++ g.rule .element)

/-- An element with its children, or one that closes itself. -/
def elementRule (g : Grammar) : Rule := fun c =>
  let named := field "name" tagName ++
    (if g.dialect.typed then opt (field "type_arguments" g.typeArguments) else nothing) ++
    many (field "attribute" g.tagAttribute)
  match (punct "<" ++ opt named) c with
  | none => none
  | some (ns, d) =>
    match punct "/>" d with
    | some (ms, e) => if ns.length < 2 then none else node "jsx_self_closing_element" (given (ns ++ ms) e) c
    | none =>
      let opening := node "jsx_opening_element" (given ns d ++ punct ">")
      let closing := node "jsx_closing_element" (punct "</" ++ opt (field "name" tagName) ++ punct ">")
      node "jsx_element" (field "open_tag" opening ++ many g.child ++ field "close_tag" closing) c

end Grammar

end CorpusShape.Syntax
