import CorpusShape.Module.Names

/-!
# Callees

A callee is looked at without the parentheses, casts and non-null marks around it. A chain of member
accesses is split into its left-most expression and the members after it.
-/
namespace CorpusShape

open Syntax

/-- Nodes that stand for the expression inside them. -/
def transparentKinds : List String :=
  ["parenthesized_expression", "non_null_expression", "as_expression", "satisfies_expression"]

mutual
/-- The expression inside transparent nodes. -/
def unwrap : Node → Node
  | n@⟨kind, _, _, _, _, _, children⟩ =>
    if transparentKinds.contains kind then unwrapFirst n children else n

/-- The expression inside the first named one of the nodes; `self` if there is none. -/
def unwrapFirst (self : Node) : List Node → Node
  | [] => self
  | n :: rest => if n.named then unwrap n else unwrapFirst self rest
end

mutual
/-- The left-most expression of a member chain, if it is there, with the members after it in the order
of the text; an index counts as the member `[]`. -/
def memberChain (src : Source) : Node → Option Node × List String
  | n@⟨kind, _, _, _, _, _, children⟩ =>
    if transparentKinds.contains kind then firstChain src n children
    else if kind == "member_expression" then
      let (root, members) := objectChain src children
      (root, members ++ [src.textOf? (n.child? "property")])
    else if kind == "subscript_expression" then
      let (root, members) := objectChain src children
      (root, members ++ ["[]"])
    else (some n, [])

/-- The chain of the first named one of the nodes; `self` alone if there is none. -/
def firstChain (src : Source) (self : Node) : List Node → Option Node × List String
  | [] => (some self, [])
  | n :: rest => if n.named then memberChain src n else firstChain src self rest

/-- The chain of the first node in the field `object`. -/
def objectChain (src : Source) : List Node → Option Node × List String
  | [] => (none, [])
  | n :: rest => if n.field == some "object" then memberChain src n else objectChain src rest
end

/-- What a call's callee is: its form, its left-most name and the members after it. -/
structure Callee where
  kind : CalleeKind
  root : Option String := none
  members : List String := []
deriving DecidableEq, Repr, Inhabited

/-- The callee that an expression is. -/
def calleeOf (src : Source) (n : Node) : Callee :=
  let inner := unwrap n
  if inner.kind == "identifier" then { kind := .name, root := some (src.textOf inner) }
  else if inner.kind == "super" then { kind := .super, root := some "super" }
  else if inner.kind == "member_expression" || inner.kind == "subscript_expression" then
    match memberChain src inner with
    | (some root, members) =>
      if root.kind == "identifier" then { kind := .member, root := some (src.textOf root), members }
      else if root.kind == "this" || root.kind == "super" then
        { kind := .member, root := some root.kind, members }
      else { kind := .other }
    | (none, _) => { kind := .other }
  else { kind := .other }

/-- The call site of a call expression; a tagged template is no call. -/
def callSite? (src : Source) (scope : Scope) (owner : Option ClassShape) (n : Node) : Option CallSite :=
  if (n.child? "arguments").any (·.kind == "template_string") then none
  else
    match n.child? "function" with
    | none => some { line := src.line n.start, kind := .other, text := "", scope := some scope, owner }
    | some callee =>
      let c := calleeOf src callee
      some { line := src.line n.start, kind := c.kind, text := src.textOf callee, root := c.root,
             members := c.members, scope := some scope, owner }

end CorpusShape
