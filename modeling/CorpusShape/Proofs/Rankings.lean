import CorpusShape.Score
import Mathlib.Data.List.Sort

/-!
# Rankings of the same metrics

A ranking holds the elements it is given, whatever the comparison says. Where every sphericity is a number the
ranked metrics rise, and two rankings of the same metrics have the same sphericity at every place: they can differ
only in the order of metrics whose sphericities are equal.
-/
namespace CorpusShape

namespace Ranking
variable {α : Type}

theorem runAfter_append (goesOn : α → α → Bool) (last : α) (xs : List α) :
    (runAfter goesOn last xs).1 ++ (runAfter goesOn last xs).2 = xs := by
  induction xs generalizing last with
  | nil => rfl
  | cons x xs ih =>
    unfold runAfter
    split
    · exact congrArg (x :: ·) (ih x)
    · rfl

theorem firstRun_perm (less : α → α → Bool) (xs : List α) :
    ((firstRun less xs).1 ++ (firstRun less xs).2).Perm xs := by
  match xs with
  | [] => exact .refl _
  | [x] => exact .refl _
  | x :: y :: ys =>
    by_cases h : less y x
    · simp only [firstRun, h, if_true]
      refine ((List.reverse_perm _).append_right _).trans ?_
      exact .of_eq (congrArg (x :: ·) (runAfter_append _ x (y :: ys)))
    · simp only [firstRun, h, Bool.false_eq_true, if_false]
      exact .of_eq (congrArg (x :: ·) (runAfter_append _ x (y :: ys)))

theorem insert_perm (less : α → α → Bool) (xs : List α) (x : α) : (insert less xs x).Perm (x :: xs) := by
  unfold insert
  refine List.perm_middle.trans ?_
  rw [List.take_append_drop]

/-- A ranking loses no element and adds none. -/
theorem ofList_perm (less : α → α → Bool) (xs : List α) : (ofList less xs).Perm xs := by
  have hfold : ∀ others run : List α, (others.foldl (insert less) run).Perm (run ++ others) := by
    intro others
    induction others with
    | nil => simp
    | cons x others ih =>
      intro run
      have hinsert := (insert_perm less run x).append_right others
      exact (ih _).trans (hinsert.trans List.perm_middle.symm)
  exact (hfold _ _).trans (firstRun_perm less xs)

end Ranking

namespace Metrics

theorem ranked_perm (ms : List Metrics) : (ranked ms).Perm ms := by
  unfold ranked
  split
  · exact List.mergeSort_perm ms notAfter
  · exact Ranking.ofList_perm _ ms

theorem notAfter_trans (a b k : Metrics) : notAfter a b → notAfter b k → notAfter a k := by
  simp only [notAfter, decide_eq_true_eq]
  omega

theorem notAfter_total (a b : Metrics) : (notAfter a b || notAfter b a) = true := by
  simp only [notAfter, Bool.or_eq_true, decide_eq_true_eq]
  omega

theorem ranked_eq_mergeSort {ms : List Metrics} (hms : ∀ m ∈ ms, Double.isNaN m.sphericity = false) :
    ranked ms = ms.mergeSort notAfter := by
  have hall : (ms.all fun m => !Double.isNaN m.sphericity) = true := by simpa using hms
  rw [ranked, if_pos hall]

theorem pairwise_ranked {ms : List Metrics} (hms : ∀ m ∈ ms, Double.isNaN m.sphericity = false) :
    (ranked ms).Pairwise fun a b => Double.rank a.sphericity ≤ Double.rank b.sphericity := by
  rw [ranked_eq_mergeSort hms]
  exact (List.pairwise_mergeSort notAfter_trans notAfter_total ms).imp of_decide_eq_true

/-- Metrics of one sphericity keep their order. -/
theorem filter_ranked {ms : List Metrics} (hms : ∀ m ∈ ms, Double.isNaN m.sphericity = false) (x : Float) :
    (ranked ms).filter (Double.same ·.sphericity x) = ms.filter (Double.same ·.sphericity x) := by
  have hequal : (ms.filter (Double.same ·.sphericity x)).Pairwise fun a b => notAfter a b = true := by
    refine List.pairwise_of_forall_mem_list fun a ha b hb => ?_
    have hsame := (List.mem_filter.mp ha).2
    have hsame' := (List.mem_filter.mp hb).2
    simp only [Double.same, Bool.and_eq_true, beq_iff_eq] at hsame hsame'
    rw [notAfter, hsame.2, hsame'.2]
    simp
  have hsorted := List.sublist_mergeSort notAfter_trans notAfter_total hequal List.filter_sublist
  rw [← ranked_eq_mergeSort hms] at hsorted
  -- The equal ones are found among the ranked ones, and there are no others.
  have hinside := hsorted.filter (Double.same ·.sphericity x)
  rw [List.filter_filter] at hinside
  simp only [Bool.and_self] at hinside
  exact (hinside.eq_of_length ((ranked_perm ms).filter _).length_eq.symm).symm

/-- Rankings of the same metrics have the same sphericity at every place. -/
theorem ranked_same_of_perm {ms ns : List Metrics} (hp : ms.Perm ns)
    (hms : ∀ m ∈ ms, Double.isNaN m.sphericity = false) :
    List.Forall₂ (fun a b => Double.same a.sphericity b.sphericity) (ranked ms) (ranked ns) := by
  have hns : ∀ m ∈ ns, Double.isNaN m.sphericity = false := fun m hm => hms m (hp.mem_iff.mpr hm)
  have hperm : (ranked ms).Perm (ranked ns) := (ranked_perm ms).trans (hp.trans (ranked_perm ns).symm)
  have hranks : (ranked ms).map (Double.rank ·.sphericity) = (ranked ns).map (Double.rank ·.sphericity) := by
    refine List.Perm.eq_of_pairwise (fun _ _ _ _ => Int.le_antisymm) ?_ ?_ (hperm.map _)
    · exact List.pairwise_map.mpr (pairwise_ranked hms)
    · exact List.pairwise_map.mpr (pairwise_ranked hns)
  rw [← List.forall₂_eq_eq_eq, List.forall₂_map_left_iff, List.forall₂_map_right_iff] at hranks
  have hnumber : ∀ m ∈ ranked ms, Double.isNaN m.sphericity = false :=
    fun m hm => hms m ((ranked_perm ms).mem_iff.mp hm)
  refine ((List.forall₂_and_left _ _).mpr ⟨hnumber, hranks⟩).imp ?_
  rintro a b ⟨ha, hrank⟩
  have hb : Double.isNaN b.sphericity = false := by
    rw [Double.isNaN, ← hrank]
    exact ha
  simp [Double.same, ha, hb, hrank]

end Metrics

end CorpusShape
