import CorpusShape.Module.Classes

/-!
# Call sites

A walk over a syntax tree that lists the calls in pre-order, each with the scope it sees and the class
around it, and that gathers the class members and object keys on its way.
-/
namespace CorpusShape

open Syntax

/-- What is known where a node stands: the scope it sees and the class around it. -/
structure Surroundings where
  scope : Scope
  owner : Option ClassShape
deriving Repr, Inhabited

/-- The frame that a function opens: its own name if it is an expression, its parameters, and the
names hoisted from its body. -/
def functionFrame (src : Source) (n : Node) : Frame :=
  let own := match n.child? "name" with
    | some name => if functionExpressionKinds.contains n.kind then [src.textOf name] else []
    | none => []
  let params := patternNames? src (n.child? "parameters" <|> n.child? "parameter")
  let f := Frame.declareAll (Frame.declareAll [] own) params
  match n.child? "body" with
  | some body => if body.kind == "statement_block" then hoist src body f else f
  | none => f

/-- The frame that a catch clause opens. -/
def catchFrame (src : Source) (n : Node) : Frame :=
  Frame.declareAll [] (patternNames? src (n.child? "parameter"))

/-- What the children of a node are surrounded by. -/
def Surroundings.inside (src : Source) (s : Surroundings) (n : Node) : Surroundings :=
  if functionKinds.contains n.kind then { s with scope := functionFrame src n :: s.scope }
  else if classKinds.contains n.kind then { s with owner := some (classShape src s.scope n) }
  else if n.kind == "catch_clause" then { s with scope := catchFrame src n :: s.scope }
  else s

/-- The call that a node is, if it is one. -/
def callAt? (src : Source) (s : Surroundings) (n : Node) : Option CallSite :=
  if n.kind == "call_expression" then callSite? src s.scope s.owner n else none

/-- The member names that a node declares. -/
def membersAt (src : Source) (s : Surroundings) (n : Node) : List String :=
  if functionKinds.contains n.kind then []
  else if classKinds.contains n.kind then (classShape src s.scope n).members
  else if n.kind == "object" then objectKeys src n
  else []

/-- Calls and member names, in the order in which they are met. -/
structure Findings where
  calls : List CallSite := []
  members : List String := []
deriving Repr, Inhabited

/-- The number of nodes that are pending. -/
def pendingSize (pending : List (Node × Surroundings)) : Nat := Node.sizes (pending.map (·.1))

theorem pendingSize_step (pending : List (Node × Surroundings)) (n : Node) (s t : Surroundings) :
    pendingSize (n.namedChildren.map (·, t) ++ pending) < pendingSize ((n, s) :: pending) := by
  have h := n.sizes_namedChildren_lt
  have hm : (n.namedChildren.map (·, t)).map (·.1) = n.namedChildren := by
    rw [List.map_map]
    exact List.map_id'' (fun _ => rfl) _
  simp only [pendingSize, List.map_append, List.map_cons, Node.sizes_append, Node.sizes_cons, hm]
  omega

/-- Visits the pending nodes, each before its children. The findings are kept newest first. -/
def visitPending (src : Source) (calls : List CallSite) (members : List String) :
    List (Node × Surroundings) → List CallSite × List String
  | [] => (calls, members)
  | (n, s) :: pending =>
    let calls := match callAt? src s n with
      | some c => c :: calls
      | none => calls
    visitPending src calls ((membersAt src s n).reverse ++ members)
      (n.namedChildren.map (·, s.inside src n) ++ pending)
termination_by pending => pendingSize pending
decreasing_by exact pendingSize_step pending n s _

/-- The calls and member names of a tree whose root sees the module's own frame. -/
def findings (src : Source) (root : Node) (frame : Frame) : Findings :=
  let (calls, members) := visitPending src [] [] [(root, ⟨[frame], none⟩)]
  ⟨calls.reverse, members.reverse⟩

end CorpusShape
