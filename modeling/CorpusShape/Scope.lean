import CorpusShape.Table

/-!
# Scopes

A name is bound to something declared in the module itself or to something imported. The bindings of
one lexical scope are a frame; a scope is the chain of frames that a place of the program sees,
innermost first. A forest of scopes keeps each frame once and refers to the enclosing one by its number.
-/
namespace CorpusShape

/-- What a name refers to. An import carries the module specifier and the imported name, `*` for a
whole module. -/
inductive Binding where
  | declared
  | imported (specifier name : Option String)
deriving DecidableEq, Repr, Inhabited

/-- The bindings of one lexical scope. -/
abbrev Frame := Table Binding

/-- The frames that a place sees, innermost first. -/
abbrev Scope := List Frame

namespace Frame

/-- Binds each of the names to a declaration of the module itself. -/
def declareAll (f : Frame) (names : List String) : Frame :=
  names.foldl (fun f n => f.put n .declared) f

end Frame

namespace Scope

/-- The binding of `name` in the nearest frame that has one. -/
def lookup (s : Scope) (name : String) : Option Binding :=
  match s with
  | [] => none
  | f :: rest =>
    match f.get? name with
    | some b => some b
    | none => lookup rest name

end Scope

/-- Scopes that are numbered in the order in which they were opened, each with the number of the scope
around it. -/
structure ScopeForest where
  scopes : List (Frame × Option Nat)
deriving Repr, Inhabited

namespace ScopeForest

def size (t : ScopeForest) : Nat := t.scopes.length

/-- Opens a scope with the given bindings inside `parent`. Its number is the number of scopes before. -/
def push (t : ScopeForest) (parent : Option Nat) (bindings : Frame) : ScopeForest :=
  ⟨t.scopes ++ [(bindings, parent)]⟩

/-- Binds `name` in the scope number `i`. Without a binding it is declared by the module itself. -/
def declare (t : ScopeForest) (i : Nat) (name : String) (b : Option Binding := none) : ScopeForest :=
  ⟨t.scopes.modify i fun s => (s.1.put name (b.getD .declared), s.2)⟩

/-- The bindings of the scope number `i`. -/
def frame (t : ScopeForest) (i : Nat) : Frame := (t.scopes[i]?.map (·.1)).getD []

/-- The frames from the scope number `i` outwards. A scope is opened after the one around it, so that
the numbers fall. -/
def chain (t : ScopeForest) (i : Nat) : Scope :=
  match t.scopes[i]? with
  | none => []
  | some (f, none) => [f]
  | some (f, some p) => if _h : p < i then f :: chain t p else [f]
termination_by i

/-- The binding of `name` seen from the scope number `i`. -/
def lookup (t : ScopeForest) (i : Nat) (name : String) : Option Binding := (t.chain i).lookup name

end ScopeForest

end CorpusShape
