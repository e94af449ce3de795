import CorpusShape.Proofs.CommentedTrees
import CorpusShape.Proofs.Loading

/-!
# First faults

The search for the first fault of a tree keeps the pending nodes on a stack and does not enter a subtree that holds no
fault. It finds the same node as the search through all nodes of the tree, each before its children. So a tree gives a
module exactly if no fault stands in it, at any depth, and otherwise the line of the failure is that of the first fault
in this order.
-/
namespace CorpusShape

open Syntax

namespace Syntax.Node
variable {n d : Node}

mutual
/-- The nodes of a tree, each before its children. -/
def preorder : Node → List Node
  | n@⟨_, _, _, _, _, _, children⟩ => n :: preorders children

def preorders : List Node → List Node
  | [] => []
  | n :: rest => n.preorder ++ preorders rest
end

theorem preorders_eq (ns : List Node) : preorders ns = ns.flatMap preorder := by
  induction ns with
  | nil => rfl
  | cons n rest ih => rw [preorders, ih, List.flatMap_cons]

theorem preorder_eq (n : Node) : n.preorder = n :: n.children.flatMap preorder := by
  rw [← preorders_eq]
  cases n
  rw [preorder]

/-- The second node is the first one or stands below it, at any depth. -/
def Holds (n d : Node) : Prop := Relation.ReflTransGen (fun a c => c ∈ a.children) n d

theorem mem_preorder_iff : d ∈ n.preorder ↔ n.Holds d := by
  induction n using Node.inductionOn with
  | h n ih =>
    rw [preorder_eq, List.mem_cons, List.mem_flatMap]
    constructor
    · rintro (rfl | ⟨c, hc, hd⟩)
      · exact .refl
      · exact .head hc ((ih c hc).mp hd)
    · intro hd
      rcases Relation.ReflTransGen.cases_head hd with rfl | ⟨c, hc, hbelow⟩
      · exact .inl rfl
      · exact .inr ⟨c, hc, (ih c hc).mpr hbelow⟩

theorem isFault_iff : n.isFault = true ↔ n.kind = "ERROR" ∨ n.missing = true := by
  rw [isFault, Bool.or_eq_true, beq_iff_eq]

/-- A tree holds a fault if one of its nodes is one. -/
theorem hasFault_eq_any (n : Node) : n.hasFault = n.preorder.any isFault := by
  induction n using Node.inductionOn with
  | h n ih =>
    have hbelow : n.children.any hasFault = (n.children.flatMap preorder).any isFault := by
      rw [List.any_flatMap]
      apply Bool.eq_iff_iff.mpr
      rw [List.any_eq_true, List.any_eq_true]
      constructor
      · rintro ⟨c, hc, hfault⟩
        exact ⟨c, hc, ih c hc ▸ hfault⟩
      · rintro ⟨c, hc, hfault⟩
        exact ⟨c, hc, (ih c hc).symm ▸ hfault⟩
    rw [hasFault_eq, preorder_eq, List.any_cons, hbelow]
    rfl

theorem hasFault_iff : n.hasFault = true ↔ ∃ d, n.Holds d ∧ (d.kind = "ERROR" ∨ d.missing = true) := by
  rw [hasFault_eq_any, List.any_eq_true]
  constructor
  · rintro ⟨d, hd, hfault⟩
    exact ⟨d, mem_preorder_iff.mp hd, isFault_iff.mp hfault⟩
  · rintro ⟨d, hd, hfault⟩
    exact ⟨d, mem_preorder_iff.mpr hd, isFault_iff.mpr hfault⟩

/-- Nothing is missed below a node without faults. -/
theorem find?_preorder_of_not_hasFault (h : n.hasFault = false) : n.preorder.find? isFault = none := by
  rw [hasFault_eq_any] at h
  apply List.find?_eq_none.mpr
  intro d hd hfault
  have hany : n.preorder.any isFault = true := List.any_eq_true.mpr ⟨d, hd, hfault⟩
  rw [h] at hany
  cases hany

/-- The search over pending nodes meets the first fault of their trees, in the order in which they are pending. -/
theorem firstFaultIn?_eq (pending : List Node) : firstFaultIn? pending = (pending.flatMap preorder).find? isFault := by
  fun_induction firstFaultIn? pending with
  | case1 => rfl
  | case2 n pending hfault =>
    rw [List.flatMap_cons, preorder_eq, List.cons_append, List.find?_cons_of_pos hfault]
  | case3 n pending hfault hbelow ih =>
    -- The node itself is no fault, and its children stand before all that was pending.
    rw [ih, List.flatMap_append, List.flatMap_cons, preorder_eq n, List.cons_append, List.find?_cons_of_neg hfault]
  | case4 n pending hfault hbelow ih =>
    rw [ih, List.flatMap_cons, List.find?_append, find?_preorder_of_not_hasFault (Bool.eq_false_iff.mpr hbelow),
      Option.none_or]

theorem firstFault?_eq (n : Node) : n.firstFault? = n.preorder.find? isFault := by
  rw [firstFault?, firstFaultIn?_eq, List.flatMap_singleton]

/-- No fault stands before this one. -/
def FirstFault (n d : Node) : Prop :=
  ∃ before after, n.preorder = before ++ d :: after ∧ d.isFault = true ∧ ∀ e ∈ before, e.isFault = false

theorem firstFault?_eq_some_iff : n.firstFault? = some d ↔ n.FirstFault d := by
  rw [firstFault?_eq, List.find?_eq_some_iff_append]
  constructor
  · rintro ⟨hfault, before, after, hsplit, hbefore⟩
    refine ⟨before, after, hsplit, hfault, ?_⟩
    intro e he
    simpa using hbefore e he
  · rintro ⟨before, after, hsplit, hfault, hbefore⟩
    refine ⟨hfault, before, after, hsplit, ?_⟩
    intro e he
    rw [hbefore e he]
    rfl

theorem isSome_firstFault? (n : Node) : n.firstFault?.isSome = n.hasFault := by
  rw [firstFault?_eq, List.isSome_find?, hasFault_eq_any]

end Syntax.Node

namespace Source

/-- The part of a text up to the end of a first part is this first part. -/
theorem charsBetween_append (before after : List Char) (at_ : Nat) :
    charsBetween 0 (at_ + (String.ofList before).utf8ByteSize) at_ (before ++ after) = before := by
  induction before generalizing at_ with
  | nil => cases after <;> simp [charsBetween]
  | cons c before ih =>
    have hsize : (String.ofList (c :: before)).utf8ByteSize = c.utf8Size + (String.ofList before).utf8ByteSize := by
      rw [← List.singleton_append, String.ofList_append, String.utf8ByteSize_append]
      congr 1
      exact String.utf8ByteSize_singleton
    have hpos := c.utf8Size_pos
    rw [hsize, List.cons_append, charsBetween, if_neg (by omega), if_pos (Nat.zero_le _), ← Nat.add_assoc, ih]

/-- The row of a place in a text is the number of line ends before it. -/
theorem row_append (before after : String) :
    (ofString (before ++ after)).row before.utf8ByteSize = before.toList.count '\n' := by
  have hchars := charsBetween_append before.toList after.toList 0
  rw [Nat.zero_add, String.ofList_toList] at hchars
  rw [row, ofString, String.toList_append, hchars]

end Source

section Failures
variable {path text : String} {root : Node}

/-- What is said of a module whose first fault stands in the given row. -/
def ParseFailure.inRow (path : String) (row : Nat) : ParseFailure :=
  { path, reason := .syntaxError, line := some (1 + row) }

theorem ParseFailure.message_inRow (path : String) (row : Nat) :
    (inRow path row).message = "Failed to parse " ++ (path ++ ":" ++ toString (1 + row)) ++ ": " ++ "syntax error" := by
  unfold inRow
  rw [Nat.add_comm]
  rfl

theorem ofTree_eq_error_of_firstFault {d : Node} (h : root.FirstFault d) (path text : String) :
    Module.ofTree path text root = .error (.inRow path ((Source.ofString text).row d.start)) := by
  have hfirst : root.firstFault? = some d := Node.firstFault?_eq_some_iff.mpr h
  have hfault : root.hasFault = true := by
    rw [← Node.isSome_firstFault?, hfirst]
    rfl
  rw [ofTree_eq_error hfault, hfirst, ParseFailure.inRow, Nat.add_comm]
  rfl

/-- The row that is named counts the line ends before the first fault. -/
theorem ofTree_eq_error_after {before : String} {d : Node} (h : root.FirstFault d)
    (hstart : d.start = before.utf8ByteSize) (path after : String) :
    Module.ofTree path (before ++ after) root = .error (.inRow path (before.toList.count '\n')) := by
  rw [ofTree_eq_error_of_firstFault h, hstart, Source.row_append]

theorem firstFault_of_ofTree_eq_error {failure : ParseFailure} (h : Module.ofTree path text root = .error failure) :
    ∃ d, root.FirstFault d := by
  cases hfault : root.hasFault with
  | false =>
    rw [ofTree_eq_ok hfault] at h
    cases h
  | true =>
    rw [← Node.isSome_firstFault?] at hfault
    obtain ⟨d, hd⟩ := Option.isSome_iff_exists.mp hfault
    exact ⟨d, Node.firstFault?_eq_some_iff.mp hd⟩

/-- A text without a module fails in the row in which it cannot be read, or in that of the first fault of its tree. -/
theorem ofText_eq_error_iff {dialect : Dialect} {failure : ParseFailure} :
    Module.ofText dialect path text = .error failure ↔
      (∃ offset, parse dialect text = .error offset ∧
        failure = .inRow path ((Source.ofString text).row offset)) ∨
      ∃ root d, parse dialect text = .ok root ∧ root.FirstFault d ∧
        failure = .inRow path ((Source.ofString text).row d.start) := by
  unfold Module.ofText
  cases parse dialect text with
  | error offset =>
    have hline : (Source.ofString text).line offset = 1 + (Source.ofString text).row offset := Nat.add_comm _ _
    simp [ParseFailure.inRow, hline, eq_comm]
  | ok root =>
    dsimp only
    constructor
    · intro h
      obtain ⟨d, hd⟩ := firstFault_of_ofTree_eq_error h
      rw [ofTree_eq_error_of_firstFault hd] at h
      exact .inr ⟨root, d, rfl, hd, (Except.error.inj h).symm⟩
    · rintro (⟨offset, hparse, -⟩ | ⟨tree, d, hparse, hd, rfl⟩)
      · cases hparse
      · cases hparse
        exact ofTree_eq_error_of_firstFault hd path text

/-- A tree holds a fault if an `ERROR` node or a missing node stands somewhere in it, and exactly then it gives no
module. What is said of it names the row of the first such node, a node before its children. The search that leaves out
the subtrees without faults finds this node, and finds one in every tree that holds a fault. -/
theorem ofTree_fails_at_first_fault (path text : String) (root : Node) :
    (root.hasFault = true ↔ ∃ d, root.Holds d ∧ (d.kind = "ERROR" ∨ d.missing = true)) ∧
    ((∃ failure, Module.ofTree path text root = .error failure) ↔
      ∃ d, root.Holds d ∧ (d.kind = "ERROR" ∨ d.missing = true)) ∧
    (∀ failure, Module.ofTree path text root = .error failure ↔
      ∃ d, root.FirstFault d ∧ failure = .inRow path ((Source.ofString text).row d.start)) ∧
    (∀ row, (ParseFailure.inRow path row).message =
      "Failed to parse " ++ (path ++ ":" ++ toString (1 + row)) ++ ": " ++ "syntax error") ∧
    (∀ d, root.firstFault? = some d ↔ root.FirstFault d) ∧
    (root.hasFault = true → root.firstFault? ≠ none) := by
  refine ⟨Node.hasFault_iff, ?_, ?_, ParseFailure.message_inRow path, fun d => Node.firstFault?_eq_some_iff, ?_⟩
  · rw [← Node.hasFault_iff]
    constructor
    · rintro ⟨failure, hfailure⟩
      obtain ⟨d, hd⟩ := firstFault_of_ofTree_eq_error hfailure
      rw [← Node.isSome_firstFault?, Node.firstFault?_eq_some_iff.mpr hd]
      rfl
    · intro hfault
      exact ⟨_, ofTree_eq_error hfault path text⟩
  · intro failure
    constructor
    · intro hfailure
      obtain ⟨d, hd⟩ := firstFault_of_ofTree_eq_error hfailure
      rw [ofTree_eq_error_of_firstFault hd] at hfailure
      exact ⟨d, hd, (Except.error.inj hfailure).symm⟩
    · rintro ⟨d, hd, rfl⟩
      exact ofTree_eq_error_of_firstFault hd path text
  · intro hfault hnone
    rw [← Node.isSome_firstFault?, hnone] at hfault
    cases hfault

end Failures

end CorpusShape
