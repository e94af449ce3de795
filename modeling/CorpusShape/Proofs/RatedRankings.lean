import CorpusShape.Proofs.Rankings
import CorpusShape.Report.Markdown

/-!
# Ratings along a ranking

Of two finite sphericities the greater is never rated lower, whatever the thresholds are: they may be given in the wrong
order, and a threshold that is no number is exceeded by nothing. Along a ranking the ratings therefore come in three
blocks, and the counts in the summary of the Markdown report are the lengths of these blocks.
-/
namespace CorpusShape

theorem Double.isNaN_of_isFinite {x : Float} (h : isFinite x = true) : isNaN x = false := by
  simp only [isFinite, isNaN, decide_eq_true_eq, decide_eq_false_iff_not] at h ⊢
  omega

namespace Rating

/-- The place of a rating among those that are known, from the worst. -/
def grade : Rating → Nat
  | .collapse => 0
  | .warning => 1
  | .good => 2
  | .unknown => 3

theorem of_finite {s : Float} (h : Double.isFinite s = true) (t : Thresholds) :
    Rating.of (some s) (some t) =
      if Double.less t.good s then .good else if Double.less t.warning s then .warning else .collapse := by
  simp [Rating.of, h]

theorem grade_lt_three {s : Float} (h : Double.isFinite s = true) (t : Thresholds) :
    (Rating.of (some s) (some t)).grade < 3 := by
  rw [of_finite h]
  repeat' split
  all_goals decide

/-- A threshold that is exceeded stays exceeded, so that no greater sphericity falls back to a lower rating. -/
theorem grade_mono {s u : Float} (hs : Double.isFinite s = true) (hu : Double.isFinite u = true)
    (hsu : Double.rank s ≤ Double.rank u) (t : Thresholds) :
    (Rating.of (some s) (some t)).grade ≤ (Rating.of (some u) (some t)).grade := by
  have hexceeds : ∀ x, Double.less x s = true → Double.less x u = true := fun x hx =>
    Double.less_of_less_of_rank_le hx (Double.isNaN_of_isFinite hu) hsu
  rw [of_finite hs, of_finite hu]
  by_cases hgood : Double.less t.good s = true
  · rw [if_pos hgood, if_pos (hexceeds _ hgood)]
  rw [if_neg hgood]
  by_cases hwarning : Double.less t.warning s = true
  · rw [if_pos hwarning, if_pos (hexceeds _ hwarning)]
    split
    · decide
    · decide
  · rw [if_neg hwarning]
    exact Nat.zero_le _

end Rating

section Blocks
variable {α : Type} {key : α → Nat}

/-- A list that rises in a key has the elements below a bound in front of the others. -/
theorem filter_lt_append_filter_ge {l : List α} (h : l.Pairwise fun a b => key a ≤ key b) (bound : Nat) :
    l.filter (key · < bound) ++ l.filter (bound ≤ key ·) = l := by
  induction l with
  | nil => rfl
  | cons a l ih =>
    obtain ⟨hhead, htail⟩ := List.pairwise_cons.mp h
    by_cases ha : key a < bound
    · rw [List.filter_cons_of_pos (by simpa using ha), List.filter_cons_of_neg (by simpa using ha), List.cons_append,
        ih htail]
    · have hnone : l.filter (key · < bound) = [] := by
        apply List.filter_eq_nil_iff.mpr
        intro b hb
        have hab := hhead b hb
        simp only [decide_eq_true_eq]
        omega
      have hall : l.filter (bound ≤ key ·) = l := by
        have hrest := ih htail
        rwa [hnone, List.nil_append] at hrest
      rw [List.filter_cons_of_neg (by simpa using ha), List.filter_cons_of_pos (by simpa using ha), hnone, hall,
        List.nil_append]

theorem length_filter_of_constant {β : Type} [DecidableEq β] {f : α → β} {l : List α} {b : β} (h : ∀ a ∈ l, f a = b)
    (x : β) : (l.filter (f · == x)).length = if b = x then l.length else 0 := by
  split
  · rename_i hx
    rw [List.filter_eq_self.mpr fun a ha => by rw [h a ha, hx, beq_self_eq_true]]
  · rename_i hx
    rw [List.filter_eq_nil_iff.mpr fun a ha => by rw [h a ha, beq_iff_eq]; exact hx, List.length_nil]

end Blocks

namespace Analysis

/-- The results are three blocks of one rating each, from the worst to the best. -/
structure InBlocks (a : Analysis) (collapsed warned good : List Metrics) : Prop where
  results : a.results = collapsed ++ warned ++ good
  collapsed : ∀ m ∈ collapsed, a.rating m = .collapse
  warned : ∀ m ∈ warned, a.rating m = .warning
  good : ∀ m ∈ good, a.rating m = .good

variable {a : Analysis} {collapsed warned good : List Metrics}

theorem InBlocks.count_eq (h : a.InBlocks collapsed warned good) (r : Rating) :
    a.count r = (if .collapse = r then collapsed.length else 0) + (if .warning = r then warned.length else 0) +
      (if .good = r then good.length else 0) := by
  rw [count, h.results, List.filter_append, List.filter_append, List.length_append, List.length_append,
    length_filter_of_constant h.collapsed, length_filter_of_constant h.warned, length_filter_of_constant h.good]

/-- Results that rise in their grades stand in blocks. -/
theorem exists_inBlocks (hknown : ∀ m ∈ a.results, (a.rating m).grade < 3)
    (hrises : a.results.Pairwise fun m n => (a.rating m).grade ≤ (a.rating n).grade) :
    ∃ collapsed warned good, a.InBlocks collapsed warned good := by
  let above := a.results.filter fun m => 1 ≤ (a.rating m).grade
  have hlow := filter_lt_append_filter_ge hrises 1
  have hhigh := filter_lt_append_filter_ge (hrises.filter fun m => 1 ≤ (a.rating m).grade) 2
  refine ⟨a.results.filter fun m => (a.rating m).grade < 1, above.filter fun m => (a.rating m).grade < 2,
    above.filter fun m => 2 ≤ (a.rating m).grade, ?_, ?_, ?_, ?_⟩
  · rw [List.append_assoc, hhigh, hlow]
  · intro m hm
    have hgrade := (List.mem_filter.mp hm).2
    revert hgrade
    cases a.rating m <;> decide
  · intro m hm
    obtain ⟨hm, hupper⟩ := List.mem_filter.mp hm
    have hlower := (List.mem_filter.mp hm).2
    revert hlower hupper
    cases a.rating m <;> decide
  · intro m hm
    obtain ⟨hm, hlower⟩ := List.mem_filter.mp hm
    have hupper := hknown m (List.mem_of_mem_filter hm)
    revert hlower hupper
    cases a.rating m <;> decide

end Analysis

/-- The full Markdown report ends with the counts of the three ratings. -/
theorem Report.exists_markdown_eq (a : Analysis) :
    ∃ above, Report.markdown a = Report.textLines (above ++ ["## Summary", "- Good: " ++ toString (a.count .good),
      "- Warning: " ++ toString (a.count .warning), "- Collapse: " ++ toString (a.count .collapse)]) :=
  ⟨_, congrArg Report.textLines (List.append_assoc _ [""] _).symm⟩

/-- The ratings of ranked metrics with finite sphericities are a block of collapses, a block of warnings and a block of
good ones, for all thresholds. Nothing is unknown, the blocks are all modules, and the Markdown report ends with their
lengths. -/
theorem ratings_follow_ranking {ms : List Metrics} (h : ∀ m ∈ ms, Double.isFinite m.sphericity = true) (t : Thresholds)
    (alpha : Float) :
    let a : Analysis := { results := Metrics.ranked ms, alpha, thresholds := some t }
    ∃ collapsed warned good above, a.InBlocks collapsed warned good ∧ (∀ m ∈ a.results, a.rating m ≠ .unknown) ∧
      a.count .collapse = collapsed.length ∧ a.count .warning = warned.length ∧ a.count .good = good.length ∧
      a.count .good + a.count .warning + a.count .collapse = ms.length ∧
      Report.markdown a = Report.textLines (above ++ ["## Summary", "- Good: " ++ toString good.length,
        "- Warning: " ++ toString warned.length, "- Collapse: " ++ toString collapsed.length]) := by
  intro a
  have hperm := Metrics.ranked_perm ms
  have hfinite : ∀ m ∈ a.results, Double.isFinite m.sphericity = true := fun m hm => h m (hperm.mem_iff.mp hm)
  have hknown : ∀ m ∈ a.results, (a.rating m).grade < 3 := fun m hm => Rating.grade_lt_three (hfinite m hm) t
  have hrises : a.results.Pairwise fun m n => (a.rating m).grade ≤ (a.rating n).grade :=
    (Metrics.pairwise_ranked fun m hm => Double.isNaN_of_isFinite (h m hm)).imp_of_mem fun hm hn hle =>
      Rating.grade_mono (hfinite _ hm) (hfinite _ hn) hle t
  obtain ⟨collapsed, warned, good, hblocks⟩ := Analysis.exists_inBlocks hknown hrises
  have hcollapsed : a.count .collapse = collapsed.length := by simp [hblocks.count_eq]
  have hwarned : a.count .warning = warned.length := by simp [hblocks.count_eq]
  have hgood : a.count .good = good.length := by simp [hblocks.count_eq]
  have hlength : collapsed.length + warned.length + good.length = ms.length := by
    rw [← hperm.length_eq, ← List.length_append, ← List.length_append]
    exact congrArg List.length hblocks.results.symm
  obtain ⟨above, hmarkdown⟩ := Report.exists_markdown_eq a
  rw [hcollapsed, hwarned, hgood] at hmarkdown
  refine ⟨collapsed, warned, good, above, hblocks, ?_, hcollapsed, hwarned, hgood, by omega, hmarkdown⟩
  intro m hm hunknown
  have hgrade := hknown m hm
  rw [hunknown] at hgrade
  exact absurd hgrade (by decide)

/-- Three modules and thresholds in the wrong order: whatever exceeds the lower one is good. -/
theorem ratings_follow_ranking_inverted :
    let metrics (file : String) (s : Float) : Metrics :=
      { id := file, file, volume := 0, area := 0, sphericity := s, cohesion := 1 }
    let ms := [metrics "b" 5, metrics "c" 20, metrics "a" 1]
    let a : Analysis := { results := Metrics.ranked ms, alpha := 1.8, thresholds := some { good := 3, warning := 10 } }
    (∀ m ∈ ms, Double.isFinite m.sphericity = true) ∧ ∃ collapsed warned good, a.InBlocks collapsed warned good ∧
      collapsed.length = 1 ∧ warned.length = 0 ∧ good.length = 2 := by
  intro metrics ms a
  have h : ∀ m ∈ ms, Double.isFinite m.sphericity = true := by decide
  have hperm : ∀ r, a.count r = (ms.filter (a.rating · == r)).length := fun r =>
    ((Metrics.ranked_perm ms).filter _).length_eq
  have hcounts : a.count .collapse = 1 ∧ a.count .warning = 0 ∧ a.count .good = 2 := by
    rw [hperm, hperm, hperm]
    decide
  obtain ⟨collapsed, warned, good, -, hblocks, -, hcollapsed, hwarned, hgood, -⟩ :=
    ratings_follow_ranking h { good := 3, warning := 10 } 1.8
  exact ⟨h, collapsed, warned, good, hblocks, hcollapsed ▸ hcounts.1, hwarned ▸ hcounts.2.1, hgood ▸ hcounts.2.2⟩

end CorpusShape
