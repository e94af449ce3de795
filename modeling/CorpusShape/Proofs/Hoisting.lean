import CorpusShape.Proofs.BoundNames
import CorpusShape.Proofs.Tables
import Mathlib.Logic.Relation

/-!
# Hoisted names

A name is hoisted to the scope of a function or a module if a declaration of it can be reached from there: through
named children, but not into imports, classes, functions and other named declarations, and below a declaration of
variables only into their initial values. The order in which pending nodes are looked at does not matter for what is
bound: hoisting binds exactly these names, and leaves every other binding as it is.
-/
namespace CorpusShape

open Syntax

theorem Frame.get?_declareAll (f : Frame) (names : List String) (x : String) :
    (f.declareAll names).get? x = if x ∈ names then some .declared else f.get? x := by
  unfold declareAll
  induction names generalizing f with
  | nil => rfl
  | cons n names ih =>
    rw [List.foldl_cons, ih]
    by_cases hx : x = n
    · subst hx
      simp
    · simp [hx, Table.get?_put_of_ne f Binding.declared (Ne.symm hx)]

def hoistedKinds : List String := variableKinds ++ namedDeclarationKinds ++ ["ambient_declaration"]

/-- Kinds of nodes below which nothing is hoisted. -/
def closedKinds : List String :=
  ["import_statement", "class", "ambient_declaration"] ++ namedDeclarationKinds ++ functionKinds

/-- The node itself declares the name for the scope around it. -/
inductive DeclaresHere (src : Source) (n : Node) (x : String) : Prop
  | declaration : Declares src n x → DeclaresHere src n x
  | loop {left : Node} : n.kind = "for_in_statement" → n.child? "left" = some left → PatternBinds src left x →
      DeclaresHere src n x

/-- From the first node hoisting goes on to the second. -/
inductive HoistLeads : Node → Node → Prop
  | child {n c : Node} : n.kind ∉ closedKinds → n.kind ∉ variableKinds → c ∈ n.namedChildren → HoistLeads n c
  | value {n d c : Node} : n.kind ∈ variableKinds → d ∈ n.namedChildren → d.child? "value" = some c → HoistLeads n c

/-- A declaration of the name is reached from the node, which may be the declaration itself. -/
def HoistedFrom (src : Source) (n : Node) (x : String) : Prop :=
  ∃ d, Relation.ReflTransGen HoistLeads n d ∧ DeclaresHere src d x

/-- A declaration of the name is reached from below the root. -/
def Hoisted (src : Source) (root : Node) (x : String) : Prop := ∃ c ∈ root.namedChildren, HoistedFrom src c x

theorem hoistStep_of_closed (src : Source) {n : Node} (h : n.kind ∈ closedKinds) :
    hoistStep src n = (if n.kind ∈ hoistedKinds then declaredNames src n else [], []) := by
  unfold hoistStep
  generalize n.kind = kind at h ⊢
  fin_cases h <;> rfl

theorem hoistStep_of_variable (src : Source) {n : Node} (h : n.kind ∈ variableKinds) :
    hoistStep src n = (declaredNames src n, n.namedChildren.filterMap (·.child? "value")) := by
  unfold hoistStep
  generalize n.kind = kind at h ⊢
  fin_cases h <;> rfl

theorem hoistStep_of_open (src : Source) {n : Node} (hclosed : n.kind ∉ closedKinds) (hvariable : n.kind ∉ variableKinds) :
    hoistStep src n =
      (if n.kind = "for_in_statement" then patternNames? src (n.child? "left") else [], n.namedChildren) := by
  have h₁ : (n.kind == "import_statement" || n.kind == "class") = false := by
    simp only [closedKinds, List.cons_append, List.mem_cons, not_or] at hclosed
    simp [hclosed]
  have h₂ : variableKinds.contains n.kind = false := by simpa using hvariable
  have h₃ : (namedDeclarationKinds.contains n.kind || n.kind == "ambient_declaration") = false := by
    simp only [closedKinds, List.mem_append, List.mem_cons, not_or] at hclosed
    simp [hclosed]
  have h₄ : functionKinds.contains n.kind = false := by
    simp only [closedKinds, List.mem_append, not_or] at hclosed
    simp [hclosed]
  unfold hoistStep
  simp only [h₁, h₂, h₃, h₄, Bool.false_eq_true, if_false, beq_iff_eq]
  split
  · rfl
  · rfl

theorem Declares.kind {src : Source} {n : Node} {x : String} (h : Declares src n x) : n.kind ∈ hoistedKinds := by
  simp only [hoistedKinds, List.mem_append, List.mem_singleton]
  cases h with
  | named hkind => exact .inl (.inr hkind)
  | declarator hkind => exact .inl (.inl hkind)
  | ambient hkind => exact .inr hkind

theorem declaresHere_iff {src : Source} {n : Node} {x : String} :
    DeclaresHere src n x ↔ x ∈ declaredNames src n ∨
      (n.kind = "for_in_statement" ∧ x ∈ patternNames? src (n.child? "left")) := by
  rw [mem_declaredNames_iff, mem_patternNames?_iff]
  constructor
  · rintro (hx | ⟨hkind, hleft, hx⟩)
    · exact .inl hx
    · exact .inr ⟨hkind, _, hleft, hx⟩
  · rintro (hx | ⟨hkind, left, hleft, hx⟩)
    · exact .declaration hx
    · exact .loop hkind hleft hx

theorem declaredNames_of_not_hoisted (src : Source) {n : Node} (h : n.kind ∉ hoistedKinds) : declaredNames src n = [] :=
  List.eq_nil_iff_forall_not_mem.mpr fun _ hx => h (mem_declaredNames_iff.mp hx).kind

theorem mem_hoistStep_names {src : Source} {n : Node} {x : String} :
    x ∈ (hoistStep src n).1 ↔ DeclaresHere src n x := by
  rw [declaresHere_iff]
  by_cases hclosed : n.kind ∈ closedKinds
  · have hfor : n.kind ≠ "for_in_statement" := fun h => absurd (h ▸ hclosed) (by decide)
    rw [hoistStep_of_closed src hclosed]
    by_cases hkind : n.kind ∈ hoistedKinds
    · simp [hkind, hfor]
    · simp [hkind, hfor, declaredNames_of_not_hoisted src hkind]
  · by_cases hvariable : n.kind ∈ variableKinds
    · have hfor : n.kind ≠ "for_in_statement" := fun h => absurd (h ▸ hvariable) (by decide)
      rw [hoistStep_of_variable src hvariable]
      simp [hfor]
    · have hkind : n.kind ∉ hoistedKinds := by
        simp only [closedKinds, List.mem_append, List.mem_cons, not_or] at hclosed
        simp [hoistedKinds, hvariable, hclosed]
      rw [hoistStep_of_open src hclosed hvariable, declaredNames_of_not_hoisted src hkind]
      by_cases hfor : n.kind = "for_in_statement"
      · simp [hfor]
      · simp [hfor]

theorem mem_hoistStep_next {src : Source} {n c : Node} : c ∈ (hoistStep src n).2 ↔ HoistLeads n c := by
  by_cases hvariable : n.kind ∈ variableKinds
  · rw [hoistStep_of_variable src hvariable, List.mem_filterMap]
    constructor
    · rintro ⟨d, hd, hvalue⟩
      exact .value hvariable hd hvalue
    · rintro (⟨-, hother, -⟩ | ⟨-, hd, hvalue⟩)
      · exact absurd hvariable hother
      · exact ⟨_, hd, hvalue⟩
  · by_cases hclosed : n.kind ∈ closedKinds
    · rw [hoistStep_of_closed src hclosed]
      constructor
      · intro h
        cases h
      · rintro (⟨hopen, -, -⟩ | ⟨hkind, -, -⟩)
        · exact absurd hclosed hopen
        · exact absurd hkind hvariable
    · rw [hoistStep_of_open src hclosed hvariable]
      constructor
      · exact .child hclosed hvariable
      · rintro (⟨-, -, hc⟩ | ⟨hkind, -, -⟩)
        · exact hc
        · exact absurd hkind hvariable

theorem hoistedFrom_iff {src : Source} {n : Node} {x : String} :
    HoistedFrom src n x ↔ DeclaresHere src n x ∨ ∃ c, HoistLeads n c ∧ HoistedFrom src c x := by
  constructor
  · rintro ⟨d, hreach, hd⟩
    rcases Relation.ReflTransGen.cases_head hreach with rfl | ⟨c, hc, hrest⟩
    · exact .inl hd
    · exact .inr ⟨c, hc, d, hrest, hd⟩
  · rintro (hd | ⟨c, hc, d, hrest, hd⟩)
    · exact ⟨n, .refl, hd⟩
    · exact ⟨d, .head hc hrest, hd⟩

/-- Whatever the order of the pending nodes, exactly the names that are reached from them are bound. -/
theorem get?_hoistPending (src : Source) (f : Frame) (pending : List Node) (x : String) :
    ((∃ n ∈ pending, HoistedFrom src n x) → (hoistPending src f pending).get? x = some .declared) ∧
      ((∀ n ∈ pending, ¬HoistedFrom src n x) → (hoistPending src f pending).get? x = f.get? x) := by
  fun_induction hoistPending src f pending with
  | case1 f => simp
  | case2 f n pending ih =>
    have hnext : ∀ c, c ∈ (hoistStep src n).2.reverse ++ pending ↔ HoistLeads n c ∨ c ∈ pending := by
      intro c
      rw [List.mem_append, List.mem_reverse, mem_hoistStep_next]
    have hframe := Frame.get?_declareAll f (hoistStep src n).1 x
    constructor
    · rintro ⟨e, he, hx⟩
      by_cases hlater : ∃ c ∈ (hoistStep src n).2.reverse ++ pending, HoistedFrom src c x
      · exact ih.1 hlater
      · -- Nothing later binds the name, so the node itself must have.
        have hnone : ∀ c ∈ (hoistStep src n).2.reverse ++ pending, ¬HoistedFrom src c x :=
          fun c hc hcx => hlater ⟨c, hc, hcx⟩
        rcases List.mem_cons.mp he with rfl | he
        · rcases hoistedFrom_iff.mp hx with hd | ⟨c, hc, hcx⟩
          · rw [ih.2 hnone, hframe, if_pos (mem_hoistStep_names.mpr hd)]
          · exact absurd hcx (hnone c ((hnext c).mpr (.inl hc)))
        · exact absurd hx (hnone e ((hnext e).mpr (.inr he)))
    · intro hnone
      have hself : ¬HoistedFrom src n x := hnone n List.mem_cons_self
      have hd : ¬DeclaresHere src n x := fun h => hself (hoistedFrom_iff.mpr (.inl h))
      rw [ih.2, hframe, if_neg (mt mem_hoistStep_names.mp hd)]
      intro c hc hcx
      rcases (hnext c).mp hc with hc | hc
      · exact hself (hoistedFrom_iff.mpr (.inr ⟨c, hc, hcx⟩))
      · exact hnone c (List.mem_cons_of_mem _ hc) hcx

/-- Hoisting binds the names that are hoisted, and nothing else. -/
theorem get?_hoist_of_hoisted {src : Source} {root : Node} (f : Frame) {x : String} (h : Hoisted src root x) :
    (hoist src root f).get? x = some .declared := by
  obtain ⟨c, hc, hx⟩ := h
  exact (get?_hoistPending src f _ x).1 ⟨c, List.mem_reverse.mpr hc, hx⟩

theorem get?_hoist_of_not_hoisted {src : Source} {root : Node} (f : Frame) {x : String} (h : ¬Hoisted src root x) :
    (hoist src root f).get? x = f.get? x :=
  (get?_hoistPending src f _ x).2 fun c hc hx => h ⟨c, List.mem_reverse.mp hc, hx⟩

end CorpusShape
