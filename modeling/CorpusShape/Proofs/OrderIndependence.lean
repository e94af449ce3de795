import CorpusShape.Analysis
import CorpusShape.Proofs.Rankings
import CorpusShape.Proofs.SameModules

/-!
# The order of modules and of steps

The counters of a corpus do not depend on the order in which its modules are collected and tallied, as long as
each of them is collected once and tallied once: at most one collecting step writes at a path, and what tallying
steps add there is a sum. Corpora that hold the same modules in different orders have the same counters for every
path, and the same metrics. The order of discovery is left only among metrics whose sphericities are equal.
-/
namespace CorpusShape

namespace Corpus
variable {c d : Corpus}

theorem collected_passes (c : Corpus) (path : String) :
    c.passes.filterMap (Pass.collected? path) = c.toList.filter (·.path = path) := by
  have hcollect : (c.toList.map Pass.collect).filterMap (Pass.collected? path) =
      c.toList.filter (·.path = path) := by
    rw [List.filterMap_map, ← List.filterMap_eq_filter]
    congr 1
    funext m
    by_cases h : m.path = path
    · simp [Pass.collected?, h, Option.guard]
    · simp [Pass.collected?, h, Option.guard]
  have htally : (c.toList.map Pass.tally).filterMap (Pass.collected? path) = [] := by
    simp [List.filterMap_map, Function.comp_def, Pass.collected?]
  rw [passes, List.filterMap_append, hcollect, htally, List.append_nil]

/-- At most one step of the passes collects what stands at a path. -/
theorem length_collected_passes (hc : c.Keyed) (path : String) :
    (c.passes.filterMap (Pass.collected? path)).length ≤ 1 := by
  have hnodup : (c.toList.map (·.path)).Nodup := hc.paths_eq ▸ hc.nodup
  have hcount := List.nodup_iff_count_le_one.mp hnodup path
  rw [collected_passes]
  rw [List.count_eq_countP, List.countP_map, List.countP_eq_length_filter] at hcount
  exact hcount

/-- The steps of the passes leave the same counters in every order. -/
theorem foldl_effect_perm (hc : c.Keyed) {steps : List Pass} (hsteps : steps.Perm c.passes)
    (names : String → List String) (path : String) (k : Counters) :
    steps.foldl (c.effect names path) k = c.passes.foldl (c.effect names path) k := by
  -- Collecting overwrites what is there, but no second step collects at the same path.
  have hcollected : steps.filterMap (Pass.collected? path) = c.passes.filterMap (Pass.collected? path) := by
    have hperm := hsteps.filterMap (Pass.collected? path)
    have hlength := length_collected_passes hc path
    match hlist : c.passes.filterMap (Pass.collected? path), hlength with
    | [], _ => exact List.perm_nil.mp (hlist ▸ hperm)
    | [m], _ => exact List.perm_singleton.mp (hlist ▸ hperm)
  have htallied := ((hsteps.filterMap Pass.tallied?).map (c.callShare names · path)).sum_eq
  rw [foldl_effect, foldl_effect, hcollected, htallied]

theorem passes_perm (h : c.modules.Perm d.modules) : d.passes.Perm c.passes := by
  have hlist : d.toList.Perm c.toList := h.symm.map _
  exact (hlist.map _).append (hlist.map _)

theorem counters_eq (c : Corpus) : c.counters (scopeResolver c) = c.countersAfter [] c.passes :=
  c.run_countCorpus []

/-- Corpora with the same modules have the same counters, up to the order of the modules. -/
theorem counters_perm (hc : c.Keyed) (h : c.modules.Perm d.modules) :
    (c.counters (scopeResolver c)).Perm (d.counters (scopeResolver d)) := by
  have hget : c.get? = d.get? := funext fun path => Table.get?_eq_of_perm h hc.nodup path
  have hpaths : c.paths.Perm d.paths := h.map _
  have hsame : ∀ p, d.passes.foldl (d.effect d.exportedNames p) 0 =
      c.passes.foldl (c.effect c.exportedNames p) 0 := by
    intro p
    rw [← effect_congr hget, ← exportedNames_congr hget]
    exact foldl_effect_perm hc (passes_perm h) _ _ _
  rw [counters_eq, counters_eq, countersAfter_eq hc, countersAfter_eq (hc.of_perm h)]
  simp only [namesWith_nil, hsame]
  exact hpaths.map _

end Corpus

theorem mapM_eq_ok_iff {ε α β : Type} {f : α → Except ε β} {xs : List α} {ys : List β} :
    xs.mapM f = .ok ys ↔ List.Forall₂ (fun x y => f x = .ok y) xs ys := by
  induction xs generalizing ys with
  | nil => simp [pure, Except.pure, eq_comm]
  | cons x xs ih =>
    rw [List.mapM_cons, List.forall₂_cons_left_iff]
    cases hx : f x with
    | error e => simp [bind, Except.bind]
    | ok y =>
      cases hxs : xs.mapM f with
      | error e => simp [bind, Except.bind, ← ih, hxs]
      | ok ys => simp [bind, Except.bind, pure, Except.pure, ← ih, hxs, eq_comm]

theorem Checked.map_seq_seq_eq_ok {α β γ δ : Type} {f : α → β → γ → δ} {x : Checked α} {y : Checked β}
    {z : Checked γ} {r : δ} (h : f <$> x <*> y <*> z = .ok r) : ∃ a b k, r = f a b k := by
  cases x with
  | bad problems => cases y <;> cases z <;> cases h
  | ok a =>
    cases y with
    | bad problems => cases z <;> cases h
    | ok b =>
      cases z with
      | bad problems => cases h
      | ok k =>
        cases h
        exact ⟨a, b, k, rfl⟩

/-- The metrics of a module name its path. -/
theorem Metrics.file_of_ofCounters {w : Weights} {alpha : Float} {file : String} {k : Counters} {m : Metrics}
    (h : ofCounters w alpha file k = .ok m) : m.file = file := by
  unfold ofCounters at h
  split at h
  · split at h
    · cases h
    · split at h
      · rename_i hfigures
        cases h
        obtain ⟨v, a, x, rfl⟩ := Checked.map_seq_seq_eq_ok hfigures
        rfl
      · cases h
  · cases h

namespace Ledger

theorem metrics_eq_ok_iff {l : Ledger} {w : Weights} {alpha : Float} {rs : List Metrics} :
    l.metrics w alpha = .ok rs ↔
      ∃ ms, List.Forall₂ (fun e m => Metrics.ofCounters w alpha e.1 e.2 = .ok m) l ms ∧ rs = Metrics.ranked ms := by
  unfold metrics
  simp only [← mapM_eq_ok_iff]
  cases l.mapM fun e => Metrics.ofCounters w alpha e.1 e.2 with
  | error e => simp [bind, Except.bind]
  | ok ms => simp [bind, Except.bind, pure, Except.pure, eq_comm]

/-- Ledgers with the same entries have the same metrics, and rank them alike up to equal sphericities. -/
theorem metrics_of_perm {l l' : Ledger} (hl : l.Perm l') {w : Weights} {alpha : Float} {rs : List Metrics}
    (hrs : l.metrics w alpha = .ok rs) :
    ∃ rs', l'.metrics w alpha = .ok rs' ∧ rs.Perm rs' ∧
      ((∀ m ∈ rs, Double.isNaN m.sphericity = false) →
        List.Forall₂ (fun a b => Double.same a.sphericity b.sphericity) rs rs') := by
  obtain ⟨ms, hms, rfl⟩ := metrics_eq_ok_iff.mp hrs
  obtain ⟨ns, hns, hperm⟩ := List.perm_comp_forall₂ hl.symm hms
  refine ⟨Metrics.ranked ns, metrics_eq_ok_iff.mpr ⟨ns, hns, rfl⟩, ?_, fun hnumbers => ?_⟩
  · exact (Metrics.ranked_perm ms).trans (hperm.symm.trans (Metrics.ranked_perm ns).symm)
  · exact Metrics.ranked_same_of_perm hperm.symm fun m hm =>
      hnumbers m ((Metrics.ranked_perm ms).mem_iff.mpr hm)

/-- Every entry of a ledger has one record, under its path. -/
theorem files_of_metrics {l : Ledger} {w : Weights} {alpha : Float} {rs : List Metrics}
    (hrs : l.metrics w alpha = .ok rs) : (rs.map (·.file)).Perm l.keys := by
  obtain ⟨ms, hms, rfl⟩ := metrics_eq_ok_iff.mp hrs
  have hfiles : ms.map (·.file) = l.keys := by
    clear hrs
    induction hms with
    | nil => rfl
    | cons hm _ ih => rw [List.map_cons, Table.keys_cons, Metrics.file_of_ofCounters hm, ih]
  rw [← hfiles]
  exact (Metrics.ranked_perm ms).map _

end Ledger

namespace Corpus
variable {c d : Corpus}

theorem keys_counters (hc : c.Keyed) : (c.counters (scopeResolver c)).keys = c.paths := by
  rw [counters_eq, keys_countersAfter hc]

theorem metrics_isOk_of_perm (hc : c.Keyed) (h : c.modules.Perm d.modules) (s : Settings)
    (hok : (c.metrics (scopeResolver c) s).isOk = true) : (d.metrics (scopeResolver d) s).isOk = true := by
  cases hrs : c.metrics (scopeResolver c) s with
  | error e =>
    rw [hrs] at hok
    cases hok
  | ok rs =>
    obtain ⟨rs', hrs', -⟩ := Ledger.metrics_of_perm (counters_perm hc h) hrs
    rw [metrics, hrs']
    rfl

/-- Every interleaving of the collecting and tallying steps of a corpus, with one memory, leaves the counters that
the two passes leave. A corpus with the same modules in another order has the same counters for every path. Where
one is scored so is the other, with the same metrics for every path; and if every sphericity is a number the two
rankings have the same sphericity at every place. -/
theorem analysis_order_independent (hc : c.Keyed) (h : c.modules.Perm d.modules) (s : Settings) :
    (∀ memory steps, steps.Perm c.passes →
      c.countersAfter memory steps = ((countCorpus c (scopeResolver c)).run memory).1) ∧
    (∀ p, (c.counters (scopeResolver c)).get? p = (d.counters (scopeResolver d)).get? p) ∧
    (c.metrics (scopeResolver c) s).isOk = (d.metrics (scopeResolver d) s).isOk ∧
    ∀ rs rs', c.metrics (scopeResolver c) s = .ok rs → d.metrics (scopeResolver d) s = .ok rs' →
      (rs.map (·.file)).Perm c.paths ∧ rs.Perm rs' ∧ (∀ a ∈ rs, ∀ b ∈ rs', a.file = b.file → a = b) ∧
      ((∀ m ∈ rs, Double.isNaN m.sphericity = false) →
        List.Forall₂ (fun a b => Double.same a.sphericity b.sphericity) rs rs') := by
  refine ⟨fun memory steps hsteps => ?_, fun p => ?_, ?_, fun rs rs' hrs hrs' => ?_⟩
  · rw [run_countCorpus, countersAfter_eq hc, countersAfter_eq hc]
    simp only [foldl_effect_perm hc hsteps]
  · exact Table.get?_eq_of_perm (counters_perm hc h) (keys_counters hc ▸ hc.nodup) p
  · exact Bool.eq_iff_iff.mpr
      ⟨metrics_isOk_of_perm hc h s, metrics_isOk_of_perm (hc.of_perm h) h.symm s⟩
  · obtain ⟨found, hfound, hperm, hsame⟩ := Ledger.metrics_of_perm (counters_perm hc h) hrs
    obtain rfl : found = rs' := Except.ok.inj (hfound.symm.trans hrs')
    have hfiles : (rs.map (·.file)).Perm c.paths := keys_counters hc ▸ Ledger.files_of_metrics hrs
    have hnodup : (rs.map (·.file)).Nodup := hfiles.nodup_iff.mpr hc.nodup
    refine ⟨hfiles, hperm, fun a ha b hb hab => ?_, hsame⟩
    exact List.inj_on_of_nodup_map hnodup ha (hperm.mem_iff.mpr hb) hab

/-- A module that calls another one as a whole. -/
def linkCaller : Module :=
  { path := "a.ts"
    calls := [{ line := 1, kind := .name, text := "b", root := some "b",
                scope := some [[("b", .imported (some "./b") (some "*"))]] }] }

def linkCallee : Module := { path := "b.ts" }

theorem analysis_order_independent_link :
    let c := ofModules [linkCaller, linkCallee]
    let d := ofModules [linkCallee, linkCaller]
    let s : Settings := { root := "", alpha := Double.positiveInfinity }
    c.countersAfter [] (c.toList.map .tally ++ c.toList.map .collect) = c.counters (scopeResolver c) ∧
      ∃ rs rs', c.metrics (scopeResolver c) s = .ok rs ∧ d.metrics (scopeResolver d) s = .ok rs' ∧
        List.Forall₂ (fun a b => Double.same a.sphericity b.sphericity) rs rs' := by
  intro c d s
  have hperm : c.modules.Perm d.modules := List.Perm.swap _ _ _
  obtain ⟨hsteps, -, hok, hranks⟩ := analysis_order_independent (keyed_ofModules _) hperm s
  refine ⟨hsteps [] _ List.perm_append_comm, ?_⟩
  have hscored : ((c.counters (scopeResolver c)).mapM fun e =>
      Metrics.ofCounters s.weights s.alpha e.1 e.2).toOption.any
        (fun ms => ms.all fun m => !Double.isNaN m.sphericity) = true := by
    decide +kernel
  cases hms : (c.counters (scopeResolver c)).mapM fun e => Metrics.ofCounters s.weights s.alpha e.1 e.2 with
  | error e =>
    rw [hms] at hscored
    cases hscored
  | ok ms =>
    rw [hms] at hscored
    have hnumbers : ∀ m ∈ Metrics.ranked ms, Double.isNaN m.sphericity = false := by
      intro m hm
      have hall := List.all_eq_true.mp hscored m ((Metrics.ranked_perm ms).mem_iff.mp hm)
      simpa using hall
    have hrs : c.metrics (scopeResolver c) s = .ok (Metrics.ranked ms) :=
      Ledger.metrics_eq_ok_iff.mpr ⟨ms, mapM_eq_ok_iff.mp hms, rfl⟩
    rw [hrs] at hok
    cases hrs' : d.metrics (scopeResolver d) s with
    | error e =>
      rw [hrs'] at hok
      cases hok
    | ok rs' =>
      obtain ⟨-, -, -, hsame⟩ := hranks _ _ hrs hrs'
      exact ⟨_, _, hrs, rfl, hsame hnumbers⟩

end Corpus

end CorpusShape
