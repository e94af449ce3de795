import CorpusShape.Analysis
import CorpusShape.Proofs.Loading
import CorpusShape.Proofs.OrderIndependence
import CorpusShape.Proofs.Scores

/-!
# What an analysis comes to

An analysis has one of two outcomes. Either a selected file cannot be loaded, and the first such file is named; or every
selected file is loaded, counted and scored, and the result has one record for each of them, ranked by sphericity with
the order of the walk between equals. No third outcome is left: balanced counters in bounds, weighed by the weights that
settings can hold, always have a score.
-/
namespace CorpusShape

namespace Corpus
variable {c : Corpus}

theorem balanced_counters {e : String × Counters} (he : e ∈ c.counters (scopeResolver c)) :
    ∃ calls, e.2.Balanced calls := by
  have hzero : ∀ e ∈ Ledger.zero c.paths, e.2.Balanced 0 := by
    intro e he
    rw [Ledger.mem_zero he]
    exact Counters.balanced_zero
  rw [counters_eq] at he
  exact ⟨_, (runPasses_balanced (n := fun _ => 0) c (scopeResolver c) c.passes hzero []).2 e he⟩

/-- Every module of a corpus is scored, in the order of the corpus, if the corpus is not too large for doubles. -/
theorem exists_metrics (hc : c.Keyed) {s : Settings} {size : Nat} (hw : s.weights.Fit) (hpow : PowersDefined s.alpha)
    (hsize : size ≤ 1023) (hbound : 30 * ((c.toList.map Module.extent).sum + 1) < 2 ^ size) :
    ∃ ms, c.metrics (scopeResolver c) s = .ok (Metrics.ranked ms) ∧ ms.map (·.file) = c.paths ∧
      ∀ m ∈ ms, m.id = m.file := by
  have hkeys := keys_counters hc
  have hscored : ∀ e ∈ c.counters (scopeResolver c), ∃ m, Metrics.ofCounters s.weights s.alpha e.1 e.2 = .ok m ∧
      m.id = e.1 ∧ m.file = e.1 := by
    intro e he
    have hpath : e.1 ∈ c.toList.map (·.path) := hc.paths_eq ▸ hkeys ▸ List.mem_map_of_mem he
    obtain ⟨m, hm, hme⟩ := List.mem_map.mp hpath
    obtain ⟨k, hk, hfit⟩ := fit_counters hc hm
    have hke : k = e.2 := by
      have hget := Table.get?_of_mem (hkeys ▸ hc.nodup) he
      exact Option.some.inj (hk.symm.trans (hme ▸ hget))
    obtain ⟨calls, hbalanced⟩ := balanced_counters he
    exact Metrics.ofCounters_ok (hke ▸ hfit) hbalanced hw hpow hsize hbound e.1
  choose! score hscore using hscored
  refine ⟨(c.counters (scopeResolver c)).map score, ?_, ?_, ?_⟩
  · rw [Corpus.metrics, Ledger.metrics_eq_ok_iff]
    refine ⟨_, ?_, rfl⟩
    rw [List.forall₂_map_right_iff, List.forall₂_same]
    exact fun e he => (hscore e he).1
  · rw [← hkeys, Table.keys, List.map_map]
    exact List.map_congr_left fun e he => (hscore e he).2.2
  · intro m hm
    obtain ⟨e, he, rfl⟩ := List.mem_map.mp hm
    exact (hscore e he).2.1.trans (hscore e he).2.2.symm

end Corpus

theorem thirtyfold_lt {extent total size : Nat} (hextent : extent ≤ 4 * total) (htotal : total < 2 ^ size) :
    30 * (extent + 1) < 2 ^ (size + 8) := by
  rw [Nat.pow_add]
  omega

/-- Ranked metrics rise, and those of one sphericity stand in the order in which they were found. -/
theorem Metrics.rising_ranked {ms : List Metrics} (h : ∀ m ∈ ranked ms, Double.isNaN m.sphericity = false) :
    (ranked ms).Pairwise (fun m n => Double.less m.sphericity n.sphericity ∨ Double.same m.sphericity n.sphericity) ∧
      ∀ x, (((ranked ms).filter (Double.same ·.sphericity x)).map (·.file)).Sublist (ms.map (·.file)) := by
  have hms : ∀ m ∈ ms, Double.isNaN m.sphericity = false := fun m hm => h m ((ranked_perm ms).mem_iff.mpr hm)
  refine ⟨(pairwise_ranked hms).imp_of_mem fun {m n} hm hn hle => ?_, fun x => ?_⟩
  · simp only [Double.less, Double.same, h m hm, h n hn]
    simpa using lt_or_eq_of_le hle
  · rw [filter_ranked hms]
    exact List.filter_sublist.map _

namespace Analysis
variable {files : Files} {s : Settings}

theorem run_of_error {e : LoadError}
    (h : Visit.corpus ((FileRules.ofPatterns s.included s.excluded).visits files (files.resolve s.root)) = .error e) :
    run files s = .error (.load e) := by
  unfold run
  dsimp only
  rw [h]
  rfl

theorem run_of_ok {c : Corpus} {results : List Metrics}
    (h : Visit.corpus ((FileRules.ofPatterns s.included s.excluded).visits files (files.resolve s.root)) = .ok c)
    (hresults : c.metrics (scopeResolver c) s = .ok results) :
    run files s = .ok { results, alpha := s.alpha, thresholds := s.thresholds } := by
  unfold run
  dsimp only
  rw [h]
  simp only [Except.mapError, bind, Except.bind, hresults]
  rfl

end Analysis

section SmallTree

/-- Two sources, beside a test, a text and a package. -/
def smallTree : Files :=
  { top := [("src", .directory [("a.ts", .file []), ("a.test.ts", .file []), ("b.ts", .file "f()".toUTF8.toList),
      ("notes.md", .file []), ("node_modules", .directory [("c.ts", .file [])])])] }

theorem wellNamed_smallTree : (Entry.directory smallTree.top).WellNamed := by
  refine .directory (by decide) (by decide) (List.forall_mem_singleton.mpr ?_)
  refine .directory (by decide) (by decide) ?_
  simp only [List.forall_mem_cons]
  refine ⟨.file _, .file _, .file _, .file _, .directory (by decide) (by decide) ?_, by simp⟩
  exact List.forall_mem_singleton.mpr (.file _)

def smallEntries : Entries :=
  [(.text "alpha", .float Double.positiveInfinity), (.text "exclude", .text "**/*.test.ts")]

def smallSettings : Settings := { root := "/", excluded := ["**/*.test.ts"], alpha := Double.positiveInfinity }

def smallRules : FileRules := .ofPatterns smallSettings.included smallSettings.excluded

theorem decides_smallRules : smallRules.Decides smallRules.includes smallRules.excludes :=
  FileRules.decides_of_isSome (by decide) (by decide)

end SmallTree

end CorpusShape
