/-!
# Concrete syntax trees

A node has a kind, a byte range of the source, and an ordered list of children. Anonymous nodes are
the tokens that a grammar writes literally; named nodes are what a reader of the program would name.
A child may hold a field of its parent. A node of kind `ERROR` and a missing node are faults.
-/
namespace CorpusShape.Syntax

/-- A node of a concrete syntax tree, with its byte range `[start, stop)` in the source. -/
structure Node where
  kind : String
  named : Bool
  missing : Bool
  /-- The field that this node holds in its parent. -/
  field : Option String
  start : Nat
  stop : Nat
  children : List Node
deriving Repr, Inhabited

namespace Node

/-- A sound named node that holds no field. -/
def branch (kind : String) (start stop : Nat) (children : List Node) : Node :=
  ⟨kind, true, false, none, start, stop, children⟩

/-- A named node without children. -/
def leaf (kind : String) (start stop : Nat) : Node :=
  ⟨kind, true, false, none, start, stop, []⟩

/-- A token that is named by its own text. -/
def token (text : String) (start stop : Nat) : Node :=
  ⟨text, false, false, none, start, stop, []⟩

/-- The same node in the field `name` of its parent. -/
def inField (name : String) (n : Node) : Node := { n with field := some name }

/-- The same node under another kind. -/
def withKind (kind : String) (n : Node) : Node := { n with kind := kind }

def namedChildren (n : Node) : List Node := n.children.filter (·.named)

/-- The first child that holds the field `name`. -/
def child? (n : Node) (name : String) : Option Node :=
  n.children.find? fun c => c.field == some name

/-- The first named child of the given kind. -/
def namedChild? (n : Node) (kind : String) : Option Node :=
  n.namedChildren.find? fun c => c.kind == kind

/-- Whether some child is the anonymous token `text`. -/
def hasToken (n : Node) (text : String) : Bool :=
  n.children.any fun c => !c.named && c.kind == text

/-- An `ERROR` node, or a node that the reader of the source made up. -/
def isFault (n : Node) : Bool := n.kind == "ERROR" || n.missing

mutual
/-- The number of nodes of a tree. -/
def size : Node → Nat
  | ⟨_, _, _, _, _, _, children⟩ => 1 + sizes children

/-- The number of nodes of a list of trees. -/
def sizes : List Node → Nat
  | [] => 0
  | n :: rest => n.size + sizes rest
end

theorem size_eq (n : Node) : n.size = 1 + sizes n.children := by
  cases n
  rfl

theorem size_pos (n : Node) : 0 < n.size := by
  rw [size_eq]
  omega

@[simp] theorem sizes_nil : sizes [] = 0 := rfl

@[simp] theorem sizes_cons (n : Node) (rest : List Node) : sizes (n :: rest) = n.size + sizes rest := rfl

@[simp] theorem sizes_append (xs ys : List Node) : sizes (xs ++ ys) = sizes xs + sizes ys := by
  induction xs with
  | nil => simp
  | cons n rest ih => simp only [List.cons_append, sizes_cons, ih]; omega

theorem sizes_filter_le (p : Node → Bool) (ns : List Node) : sizes (ns.filter p) ≤ sizes ns := by
  induction ns with
  | nil => simp
  | cons n rest ih =>
    rw [List.filter_cons]
    split
    · simp only [sizes_cons]; omega
    · simp only [sizes_cons]; omega

theorem sizes_namedChildren_lt (n : Node) : sizes n.namedChildren < n.size := by
  have h := sizes_filter_le (·.named) n.children
  rw [size_eq]
  simp only [namedChildren]
  omega

theorem size_le_of_mem {c : Node} {ns : List Node} (h : c ∈ ns) : c.size ≤ sizes ns := by
  induction ns with
  | nil => cases h
  | cons n rest ih =>
    rcases List.mem_cons.1 h with rfl | h'
    · simp only [sizes_cons]; omega
    · have := ih h'
      simp only [sizes_cons]; omega

theorem size_child?_lt {n c : Node} {name : String} (h : n.child? name = some c) : c.size < n.size := by
  have hm := size_le_of_mem (List.mem_of_find?_eq_some h)
  rw [size_eq n]
  omega

mutual
/-- Whether the tree holds a fault, at any depth. -/
def hasFault : Node → Bool
  | ⟨kind, _, missing, _, _, _, children⟩ => kind == "ERROR" || missing || anyFault children

/-- Whether one of the trees holds a fault. -/
def anyFault : List Node → Bool
  | [] => false
  | n :: rest => n.hasFault || anyFault rest
end

/-- The first fault of the pending trees, a node before its children. Subtrees without faults are not entered. -/
def firstFaultIn? : List Node → Option Node
  | [] => none
  | n :: pending =>
    if n.isFault then some n
    else if n.hasFault then firstFaultIn? (n.children ++ pending)
    else firstFaultIn? pending
termination_by ns => sizes ns
decreasing_by
  · rw [sizes_append, sizes_cons, size_eq]
    omega
  · have hpos := n.size_pos
    rw [sizes_cons]
    omega

/-- The first fault of a tree. -/
def firstFault? (n : Node) : Option Node := firstFaultIn? [n]

end Node

end CorpusShape.Syntax
