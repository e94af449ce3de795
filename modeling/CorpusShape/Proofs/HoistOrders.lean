import CorpusShape.Proofs.MirroredTrees
import CorpusShape.Proofs.ScopeHistories

/-!
# Hoisting in any order

The names that are hoisted are given by recursion over the tree: a declaration gives its own names, one of variables
also those of the initial values, and every other node that is not closed gives those of its named children. Hoisting
with pending nodes binds exactly these names. Whichever of the pending nodes is looked at next, hoisting comes to an
end, its scope has the same bindings then, and no other scope has changed.
-/
namespace CorpusShape

open Syntax

mutual
/-- The names that are hoisted from a node, which may declare some of them itself. -/
def hoistedNames (src : Source) : Node → List String
  | n@⟨kind, _, _, _, _, _, children⟩ =>
    if kind ∈ variableKinds then declaredNames src n ++ hoistedFromValues src children
    else if kind ∈ closedKinds then if kind ∈ hoistedKinds then declaredNames src n else []
    else
      (if kind = "for_in_statement" then patternNames? src (n.child? "left") else []) ++ hoistedFromNamed src children

def hoistedFromNamed (src : Source) : List Node → List String
  | [] => []
  | n :: rest => (if n.named then hoistedNames src n else []) ++ hoistedFromNamed src rest

def hoistedFromValues (src : Source) : List Node → List String
  | [] => []
  | ⟨_, named, _, _, _, _, children⟩ :: rest =>
    (if named then hoistedFromValue src children else []) ++ hoistedFromValues src rest

def hoistedFromValue (src : Source) : List Node → List String
  | [] => []
  | n :: rest => if n.field == some "value" then hoistedNames src n else hoistedFromValue src rest
end

section Names
variable (src : Source)

theorem hoistedFromNamed_eq (ns : List Node) :
    hoistedFromNamed src ns = (ns.filter (·.named)).flatMap (hoistedNames src) := by
  induction ns with
  | nil => rfl
  | cons n rest ih =>
    rw [hoistedFromNamed, ih]
    by_cases hn : n.named
    · simp [hn]
    · simp [hn]

theorem hoistedFromValue_eq (ns : List Node) :
    hoistedFromValue src ns = (ns.find? fun c => c.field == some "value").elim [] (hoistedNames src) := by
  induction ns with
  | nil => rfl
  | cons n rest ih =>
    rw [hoistedFromValue, ih, List.find?_cons]
    cases n.field == some "value" with
    | true => rfl
    | false => rfl

theorem hoistedFromValues_eq (ns : List Node) :
    hoistedFromValues src ns = ((ns.filter (·.named)).filterMap (·.child? "value")).flatMap (hoistedNames src) := by
  induction ns with
  | nil => rfl
  | cons n rest ih =>
    have hvalue := hoistedFromValue_eq src n.children
    cases n with
    | mk kind named missing field start stop children =>
      rw [hoistedFromValues, ih, hvalue]
      cases named with
      | false => rfl
      | true =>
        rw [List.filter_cons_of_pos rfl, List.filterMap_cons]
        dsimp only [Node.child?]
        cases children.find? fun c => c.field == some "value" with
        | none => rfl
        | some c => rfl

/-- Hoisting from a node gives what the step there declares, and what is hoisted from where it goes on. -/
theorem hoistedNames_eq (n : Node) :
    hoistedNames src n = (hoistStep src n).1 ++ (hoistStep src n).2.flatMap (hoistedNames src) := by
  have hequation : hoistedNames src n =
      if n.kind ∈ variableKinds then declaredNames src n ++ hoistedFromValues src n.children
      else if n.kind ∈ closedKinds then if n.kind ∈ hoistedKinds then declaredNames src n else []
      else (if n.kind = "for_in_statement" then patternNames? src (n.child? "left") else []) ++
        hoistedFromNamed src n.children := by
    cases n
    rw [hoistedNames]
  rw [hequation]
  by_cases hvariable : n.kind ∈ variableKinds
  · rw [if_pos hvariable, hoistStep_of_variable src hvariable, hoistedFromValues_eq]
    rfl
  · rw [if_neg hvariable]
    by_cases hclosed : n.kind ∈ closedKinds
    · rw [if_pos hclosed, hoistStep_of_closed src hclosed, List.flatMap_nil, List.append_nil]
    · rw [if_neg hclosed, hoistStep_of_open src hclosed hvariable, hoistedFromNamed_eq]
      rfl

end Names

section Reach
variable {src : Source} {n : Node} {x : String}

theorem mem_hoistedNames_step :
    x ∈ hoistedNames src n ↔ x ∈ (hoistStep src n).1 ∨ ∃ c ∈ (hoistStep src n).2, x ∈ hoistedNames src c := by
  rw [hoistedNames_eq, List.mem_append, List.mem_flatMap]

/-- The recursion gives the names of the declarations that are reached. -/
theorem mem_hoistedNames_iff : x ∈ hoistedNames src n ↔ HoistedFrom src n x := by
  -- An initial value is no child of its declaration, so the induction is on the size.
  induction hsize : n.size using Nat.strong_induction_on generalizing n with
  | h size ih =>
    have hbelow : ∀ c ∈ (hoistStep src n).2, x ∈ hoistedNames src c ↔ HoistedFrom src c x := by
      intro c hc
      have hle := Node.size_le_of_mem hc
      have hlt := sizes_hoistStep_lt src n
      exact ih c.size (by omega) rfl
    rw [mem_hoistedNames_step, hoistedFrom_iff, mem_hoistStep_names]
    apply or_congr_right
    constructor
    · rintro ⟨c, hc, hx⟩
      exact ⟨c, mem_hoistStep_next.mp hc, (hbelow c hc).mp hx⟩
    · rintro ⟨c, hc, hx⟩
      have hnext : c ∈ (hoistStep src n).2 := mem_hoistStep_next.mpr hc
      exact ⟨c, hnext, (hbelow c hnext).mpr hx⟩

def hoistedBelow (src : Source) (root : Node) : List String := hoistedFromNamed src root.children

theorem mem_hoistedBelow {root : Node} :
    x ∈ hoistedBelow src root ↔ ∃ c ∈ root.namedChildren, x ∈ hoistedNames src c := by
  rw [hoistedBelow, hoistedFromNamed_eq, List.mem_flatMap]
  rfl

theorem mem_hoistedBelow_iff {root : Node} : x ∈ hoistedBelow src root ↔ Hoisted src root x := by
  rw [mem_hoistedBelow]
  simp only [mem_hoistedNames_iff]
  rfl

theorem get?_hoist (src : Source) (root : Node) (f : Frame) (x : String) :
    (hoist src root f).get? x = if x ∈ hoistedBelow src root then some .declared else f.get? x := by
  by_cases hx : x ∈ hoistedBelow src root
  · rw [if_pos hx]
    exact get?_hoist_of_hoisted f (mem_hoistedBelow_iff.mp hx)
  · rw [if_neg hx]
    exact get?_hoist_of_not_hoisted f (mt mem_hoistedBelow_iff.mpr hx)

end Reach

namespace ScopeForest

def declareAll (t : ScopeForest) (i : Nat) (names : List String) : ScopeForest :=
  names.foldl (fun t x => t.declare i x) t

/-- The two forests differ at most in the bindings of the scope number `i`. -/
structure SameElsewhere (i : Nat) (t u : ScopeForest) : Prop where
  size : u.size = t.size
  parent (j : Nat) : u.parent? j = t.parent? j
  frame {j : Nat} : j ≠ i → u.frame j = t.frame j

namespace SameElsewhere
variable {i : Nat} {t u v : ScopeForest}

theorem refl (i : Nat) (t : ScopeForest) : SameElsewhere i t t := ⟨rfl, fun _ => rfl, fun _ => rfl⟩

theorem trans (h : SameElsewhere i t u) (h' : SameElsewhere i u v) : SameElsewhere i t v where
  size := h'.size.trans h.size
  parent j := (h'.parent j).trans (h.parent j)
  frame hj := (h'.frame hj).trans (h.frame hj)

theorem declare (t : ScopeForest) (i : Nat) (name : String) (b : Option Binding) :
    SameElsewhere i t (t.declare i name b) where
  size := size_declare t i name b
  parent j := parent?_declare t i j name b
  frame hj := by
    rw [frame_declare]
    exact if_neg fun h => hj h.1.symm

theorem declareAll (t : ScopeForest) (i : Nat) (names : List String) : SameElsewhere i t (t.declareAll i names) := by
  induction names generalizing t with
  | nil => exact refl i t
  | cons x names ih => exact (declare t i x none).trans (ih (t.declare i x))

end SameElsewhere

theorem frame_declareAll {t : ScopeForest} {i : Nat} (hi : i < t.size) (names : List String) :
    (t.declareAll i names).frame i = (t.frame i).declareAll names := by
  induction names generalizing t with
  | nil => rfl
  | cons x names ih =>
    have hnext : (t.declare i x).frame i = (t.frame i).put x .declared := by
      rw [frame_declare]
      exact if_pos ⟨rfl, hi⟩
    rw [Frame.declareAll, List.foldl_cons, ← hnext]
    exact ih (by rw [size_declare]; exact hi)

end ScopeForest

/-- One of the pending nodes is looked at, whichever it is. What it declares is declared in the scope number `i`, and
the nodes to look at next are pending among the others, in any order. -/
inductive HoistMove (src : Source) (i : Nat) : ScopeForest × List Node → ScopeForest × List Node → Prop
  | look {t : ScopeForest} {pending next rest : List Node} {n : Node} : pending.Perm (n :: rest) →
      next.Perm ((hoistStep src n).2 ++ rest) →
      HoistMove src i (t, pending) (t.declareAll i (hoistStep src n).1, next)

/-- Names are hoisted from below `root` to the scope number `i`, in some order. -/
def Hoists (src : Source) (root : Node) (i : Nat) (t u : ScopeForest) : Prop :=
  ∃ start : List Node, start.Perm root.namedChildren ∧ Relation.ReflTransGen (HoistMove src i) (t, start) (u, [])

section Moves
variable {src : Source} {i : Nat} {a b : ScopeForest × List Node}

theorem sizes_eq_of_perm {xs ys : List Node} (h : xs.Perm ys) : Node.sizes xs = Node.sizes ys := by
  induction h with
  | nil => rfl
  | cons n _ ih => rw [Node.sizes_cons, Node.sizes_cons, ih]
  | swap m n ns =>
    simp only [Node.sizes_cons]
    omega
  | trans _ _ ih₁ ih₂ => exact ih₁.trans ih₂

theorem HoistMove.sizes_lt (h : HoistMove src i a b) : Node.sizes b.2 < Node.sizes a.2 := by
  cases h with
  | @look t pending next rest n hpending hnext =>
    have hlt := sizes_hoistStep_lt src n
    simp only [sizes_eq_of_perm hpending, sizes_eq_of_perm hnext, Node.sizes_append, Node.sizes_cons]
    omega

theorem wellFounded_hoistMove (src : Source) (i : Nat) : WellFounded fun b a => HoistMove src i a b :=
  Subrelation.wf (fun h => HoistMove.sizes_lt h) (measure fun a : ScopeForest × List Node => Node.sizes a.2).wf

/-- What a name of the scope will be bound to, given what is hoisted from the pending nodes. -/
def hoistOutcome (src : Source) (i : Nat) (a : ScopeForest × List Node) (x : String) : Option Binding :=
  if ∃ n ∈ a.2, x ∈ hoistedNames src n then some .declared else (a.1.frame i).get? x

/-- A move declares at once what would be hoisted from the node otherwise. -/
theorem HoistMove.hoistOutcome_eq (h : HoistMove src i a b) (hi : i < a.1.size) (x : String) :
    hoistOutcome src i b x = hoistOutcome src i a x := by
  cases h with
  | @look t pending next rest n hpending hnext =>
    have hframe : ((t.declareAll i (hoistStep src n).1).frame i).get? x =
        if x ∈ (hoistStep src n).1 then some .declared else (t.frame i).get? x := by
      rw [ScopeForest.frame_declareAll hi, Frame.get?_declareAll]
    have hsplit : (∃ m ∈ pending, x ∈ hoistedNames src m) ↔
        x ∈ (hoistStep src n).1 ∨ ∃ m ∈ next, x ∈ hoistedNames src m := by
      simp only [hpending.mem_iff, hnext.mem_iff, List.mem_append, List.mem_cons, or_and_right, exists_or,
        exists_eq_left, mem_hoistedNames_step (n := n), or_assoc]
    unfold hoistOutcome
    dsimp only
    rw [hframe]
    by_cases hlater : ∃ m ∈ next, x ∈ hoistedNames src m
    · rw [if_pos hlater, if_pos (hsplit.mpr (.inr hlater))]
    · -- Nothing pending gives the name any more, so it is bound if the node has declared it.
      rw [if_neg hlater]
      by_cases hhere : x ∈ (hoistStep src n).1
      · rw [if_pos hhere, if_pos (hsplit.mpr (.inl hhere))]
      · rw [if_neg hhere, if_neg fun hsome => (hsplit.mp hsome).elim hhere hlater]

theorem HoistMove.sameElsewhere (h : HoistMove src i a b) : a.1.SameElsewhere i b.1 := by
  cases h
  exact .declareAll _ i _

theorem sameElsewhere_of_moves (h : Relation.ReflTransGen (HoistMove src i) a b) : a.1.SameElsewhere i b.1 := by
  induction h with
  | refl => exact .refl i a.1
  | tail _ hmove ih => exact ih.trans hmove.sameElsewhere

theorem hoistOutcome_of_moves (h : Relation.ReflTransGen (HoistMove src i) a b) (hi : i < a.1.size) (x : String) :
    hoistOutcome src i b x = hoistOutcome src i a x := by
  induction h with
  | refl => rfl
  | tail hmoves hmove ih =>
    have hsize := (sameElsewhere_of_moves hmoves).size
    rw [hmove.hoistOutcome_eq (by omega), ih]

/-- The stack is one of the orders. -/
theorem moves_hoistPending (src : Source) {t : ScopeForest} {f : Frame} (pending : List Node) (hi : i < t.size)
    (hf : t.frame i = f) :
    ∃ u, Relation.ReflTransGen (HoistMove src i) (t, pending) (u, []) ∧ u.frame i = hoistPending src f pending := by
  fun_induction hoistPending src f pending generalizing t with
  | case1 f => exact ⟨t, .refl, hf⟩
  | case2 f n pending ih =>
    have hsize := (ScopeForest.SameElsewhere.declareAll t i (hoistStep src n).1).size
    have hframe : (t.declareAll i (hoistStep src n).1).frame i = f.declareAll (hoistStep src n).1 := by
      rw [ScopeForest.frame_declareAll hi, hf]
    obtain ⟨u, hmoves, hu⟩ := ih (by omega) hframe
    refine ⟨u, .head ?_ hmoves, hu⟩
    exact .look (.refl _) ((List.reverse_perm _).append_right pending)

end Moves

/-- Hoisting binds the names that the recursion over the tree gives, which are those of the declarations that are
reached from below the root, and no others. Whichever pending node is looked at next, there is no endless hoisting. The
stack is one of the orders. In every order the scope ends with the same bindings, and the other scopes stay as they
are. -/
theorem hoisting_in_any_order (src : Source) (root : Node) {t : ScopeForest} {i : Nat} (hi : i < t.size) :
    (∀ f x, (hoist src root f).get? x = if x ∈ hoistedBelow src root then some .declared else f.get? x) ∧
    (∀ x, x ∈ hoistedBelow src root ↔ Hoisted src root x) ∧
    (WellFounded fun b a => HoistMove src i a b) ∧
    (∃ u, Hoists src root i t u ∧ u.frame i = hoist src root (t.frame i)) ∧
    ∀ u, Hoists src root i t u →
      (∀ x, (u.frame i).get? x = (hoist src root (t.frame i)).get? x) ∧ t.SameElsewhere i u := by
  refine ⟨get?_hoist src root, fun x => mem_hoistedBelow_iff, wellFounded_hoistMove src i, ?_, ?_⟩
  · obtain ⟨u, hmoves, hu⟩ := moves_hoistPending src root.namedChildren.reverse hi rfl
    exact ⟨u, ⟨_, List.reverse_perm _, hmoves⟩, hu⟩
  · rintro u ⟨start, hstart, hmoves⟩
    refine ⟨fun x => ?_, sameElsewhere_of_moves hmoves⟩
    have houtcome := hoistOutcome_of_moves hmoves hi x
    simp only [hoistOutcome, List.not_mem_nil, false_and, exists_false, if_false, hstart.mem_iff, ← mem_hoistedBelow]
      at houtcome
    rw [houtcome, get?_hoist]

/-- The tree of `for (x of f) { function g() { var y } const { p: q } = z }`. -/
def loopTree : Node :=
  .branch "program" 0 58 [.branch "for_in_statement" 0 58 [.token "for" 0 3, .token "(" 4 5,
    (Node.leaf "identifier" 5 6).inField "left", (Node.token "of" 7 9).inField "operator",
    (Node.leaf "identifier" 10 11).inField "right", .token ")" 11 12,
    (Node.branch "statement_block" 13 58 [.token "\x7b" 13 14,
      .branch "function_declaration" 15 37 [.token "function" 15 23, (Node.leaf "identifier" 24 25).inField "name",
        (Node.branch "formal_parameters" 25 27 [.token "(" 25 26, .token ")" 26 27]).inField "parameters",
        (Node.branch "statement_block" 28 37 [.token "\x7b" 28 29,
          .branch "variable_declaration" 30 35 [.token "var" 30 33,
            .branch "variable_declarator" 34 35 [(Node.leaf "identifier" 34 35).inField "name"]],
          .token "\x7d" 36 37]).inField "body"],
      .branch "lexical_declaration" 38 56 [(Node.token "const" 38 43).inField "kind",
        .branch "variable_declarator" 44 56 [(Node.branch "object_pattern" 44 52 [.token "\x7b" 44 45,
            .branch "pair_pattern" 46 50 [(Node.leaf "property_identifier" 46 47).inField "key", .token ":" 47 48,
              (Node.leaf "identifier" 49 50).inField "value"],
            .token "\x7d" 51 52]).inField "name",
          .token "=" 53 54, (Node.leaf "identifier" 55 56).inField "value"]],
      .token "\x7d" 57 58]).inField "body"]]

/-- An imported name in the scope of a module, and a scope inside it. -/
def importing : ScopeForest := ⟨[([("f", .imported (some "./b") (some "f"))], none), ([], some 0)]⟩

theorem hoisting_in_any_order_loopTree :
    let src : Source := .ofString "for (x of f) \x7b function g() \x7b var y \x7d const \x7b p: q \x7d = z \x7d"
    0 < importing.size ∧ (∀ x, Hoisted src loopTree x ↔ x ∈ ["x", "g", "q"]) ∧ ∀ u, Hoists src loopTree 0 importing u →
      (u.frame 0).get? "x" = some .declared ∧ (u.frame 0).get? "g" = some .declared ∧
        (u.frame 0).get? "q" = some .declared ∧ (u.frame 0).get? "p" = none ∧ (u.frame 0).get? "y" = none ∧
        (u.frame 0).get? "f" = some (.imported (some "./b") (some "f")) ∧ u.frame 1 = [] := by
  intro src
  have hi : 0 < importing.size := by decide
  have hnames : hoistedBelow src loopTree = ["x", "g", "q"] := by decide
  obtain ⟨hbound, hhoisted, -, -, hany⟩ := hoisting_in_any_order src loopTree hi
  refine ⟨hi, fun x => by rw [← hhoisted, hnames], fun u hu => ?_⟩
  obtain ⟨hself, helse⟩ := hany u hu
  simp only [hself, hbound, hnames]
  exact ⟨rfl, rfl, rfl, rfl, rfl, rfl, helse.frame (by decide)⟩

end CorpusShape
