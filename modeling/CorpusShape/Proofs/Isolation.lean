import CorpusShape.Proofs.Credits
import CorpusShape.Proofs.OrderIndependence

/-!
# Modules that nothing sees

A module that no specifier of another module names is never entered on behalf of the others: not by the search for
export sets, not by a walk along re-exports, and not by a call. The corpus without it shares all other modules with
the corpus, so that the calls of the others have the same targets. What is lost is what the module itself gave: a credit
for each of its calls to another module.
-/
namespace CorpusShape

namespace Path

theorem clean_ne_empty (path : String) : clean path ≠ "" := by
  unfold clean
  dsimp only
  split
  · decide
  · rename_i h
    intro hempty
    have hchars := congrArg String.toList hempty
    rw [String.toList_ofList] at hchars
    simp [hchars] at h

theorem join_ne_empty (a : String) {b : String} (h : b ≠ "") : join a b ≠ "" := by
  unfold join
  split
  · exact h
  · split
    · simp [h]
    · simp [h]

end Path

namespace Module

/-- The specifiers of the re-exports of a module, of the bindings at its top, and of those that its calls and the
classes around them see. -/
def seenSpecifiers (m : Module) : List String := m.specifiers ++ m.calls.flatMap CallSite.specifiers

theorem seenSpecifier_mem_of_call {m : Module} {call : CallSite} (hcall : call ∈ m.calls) {s : String}
    (hs : s ∈ call.specifiers) : s ∈ m.seenSpecifiers :=
  List.mem_append_right _ (List.mem_flatMap.mpr ⟨call, hcall, hs⟩)

end Module

namespace Corpus
variable {c : Corpus}

theorem ne_empty_of_mem_candidates {base path : String} (hbase : base ≠ "") (h : path ∈ candidates base) :
    path ≠ "" := by
  have hsources : ∀ e ∈ sourceExtensions, e ≠ "" := by decide
  have hcompiled : ∀ ext, ∀ e ∈ compiledFrom ext, e ≠ "" := by
    intro ext e he
    unfold compiledFrom at he
    split at he <;> simp at he
    · rcases he with rfl | rfl <;> decide
    · subst he
      decide
    · subst he
      decide
    · subst he
      decide
  unfold candidates at h
  simp only [List.mem_append, List.mem_singleton, List.mem_map] at h
  rcases h with (((rfl | ⟨e, he, rfl⟩) | ⟨e, he, rfl⟩) | rfl) | ⟨e, he, rfl⟩
  · exact hbase
  · simp [hcompiled _ e he]
  · simp [hbase]
  · simp [hbase]
  · exact Path.join_ne_empty base (by simp)

/-- No specifier names the empty path. -/
theorem resolve?_ne_empty {origin specifier target : String} (h : c.resolve? origin specifier = some target) :
    target ≠ "" := by
  have hclean : ∀ base, specifiedPath? origin specifier = some base → base ≠ "" := by
    intro base hbase
    unfold specifiedPath? at hbase
    split at hbase
    · exact Option.some.inj hbase ▸ Path.clean_ne_empty _
    · split at hbase
      · exact Option.some.inj hbase ▸ Path.clean_ne_empty _
      · cases hbase
  unfold resolve? at h
  split at h
  · cases h
  · rename_i base hbase
    exact ne_empty_of_mem_candidates (hclean base hbase) (List.mem_of_find?_eq_some h)

/-- A call that goes to another module goes to one with a path. -/
theorem ne_empty_of_targetWith {names : String → List String} {m : Module} {call : CallSite} {path : String}
    (h : c.targetWith names m call = .inModule path) (hpath : path ≠ m.path) : path ≠ "" := by
  have hself : c.SharedPart c fun p => p = m.path ∨ p ≠ "" :=
    ⟨fun _ _ => rfl, fun _ _ _ _ _ _ => rfl, fun _ _ _ _ _ _ _ ht => .inr (resolve?_ne_empty ht)⟩
  have hlies : CallTarget.LiesIn (fun p => p = m.path ∨ p ≠ "") (c.targetWith names m call) :=
    (hself.targetWith_alike (fun _ _ => rfl) (.inl rfl) fun _ _ => ⟨rfl, fun _ ht => .inr (resolve?_ne_empty ht)⟩).2
  rw [h] at hlies
  exact (hlies path rfl).resolve_left hpath

/-- The calls of a module give another module nothing but credits. -/
theorem callShare_of_ne {memory : ExportMemory} {m : Module} {path : String} (hpath : path ≠ m.path) :
    c.callShare (c.namesWith memory) m path = { incomingInternal := c.callsTo memory path m } := by
  unfold callShare callsTo
  induction m.calls with
  | nil => rfl
  | cons call calls ih =>
    have hclass : classify m.path (c.targetWith (c.namesWith memory) m call) = (.crossModule, some path) ↔
        c.targetWith (c.namesWith memory) m call = .inModule path :=
      classify_eq_crossModule.trans ⟨fun h => h.1, fun h => ⟨h, ne_empty_of_targetWith h hpath, hpath⟩⟩
    rw [List.map_cons, List.sum_cons, ih, List.countP_cons, run_scopeResolver, Counters.share, if_neg hpath, zero_add]
    by_cases htarget : c.targetWith (c.namesWith memory) m call = .inModule path
    · rw [if_pos (hclass.mpr htarget)]
      simp [htarget, Counters.credit, Counters.addIncoming, Counters.add_def, Counters.zero_def, Int.add_comm]
    · rw [if_neg (mt hclass.mp htarget)]
      simp [htarget]

/-- The counters of a module: what it declares, and the shares of all calls. -/
theorem get?_counters (hc : c.Keyed) {path : String} (hp : path ∈ c.paths) :
    (c.counters (scopeResolver c)).get? path =
      some ((c.toList.filter (·.path = path)).foldl (fun k m => k.collect m (c.exportedNames m.path).length) 0 +
        (c.toList.map (c.callShare c.exportedNames · path)).sum) := by
  have htallied : c.passes.filterMap Pass.tallied? = c.toList := by
    simp [passes, List.filterMap_append, List.filterMap_map, Function.comp_def, Pass.tallied?]
  have hnodup : (c.countersAfter [] c.passes).keys.Nodup := by
    rw [keys_countersAfter hc]
    exact hc.nodup
  rw [counters_eq]
  refine Table.get?_of_mem hnodup ?_
  rw [countersAfter_eq hc, namesWith_nil]
  refine List.mem_map.mpr ⟨path, hp, ?_⟩
  rw [foldl_effect, collected_passes, htallied]

section Removal
variable {q : Module}

theorem get?_remove_of_ne {path : String} (h : path ≠ q.path) : (c.remove q.path).get? path = c.get? path :=
  Table.get?_erase_of_ne _ (Ne.symm h)

namespace Keyed
variable (hc : c.Keyed)
include hc

theorem modules_remove (path : String) : (c.remove path).modules = c.modules.filter (·.1 ≠ path) :=
  Table.erase_eq_filter hc.nodup path

theorem paths_remove (path : String) : (c.remove path).paths = c.paths.filter (· ≠ path) := by
  rw [paths, hc.modules_remove, paths, Table.keys, Table.keys, List.filter_map]
  rfl

theorem toList_remove (path : String) : (c.remove path).toList = c.toList.filter (·.path ≠ path) := by
  rw [toList, hc.modules_remove, toList, List.filter_map]
  congr 1
  refine List.filter_congr fun e he => ?_
  simp [hc.own e he]

theorem remove (path : String) : (c.remove path).Keyed where
  nodup := by
    rw [hc.paths_remove]
    exact hc.nodup.filter _
  own := by
    intro e he
    rw [hc.modules_remove] at he
    exact hc.own e (List.mem_of_mem_filter he)

end Keyed

/-- No specifier that another module of the corpus sees names the module. -/
def Unseen (c : Corpus) (q : Module) : Prop :=
  ∀ m ∈ c.toList, m.path ≠ q.path → ∀ s ∈ m.seenSpecifiers, c.resolve? m.path s ≠ some q.path

namespace Unseen
variable (hunseen : c.Unseen q) (hc : c.Keyed) (hq : q ∈ c.toList)
include hunseen hc hq

theorem follows {m : Module} (hm : m ∈ c.toList) (hne : m.path ≠ q.path) {s : String} (hs : s ∈ m.seenSpecifiers) :
    c.Follows (c.remove q.path) (· ≠ q.path) m.path s where
  resolve?_eq := by
    have hself : c.contains q.path = true := (Table.contains_iff_mem_keys _ _).mpr (hc.mem_paths hq)
    refine resolve?_eq_of_ne hself (fun path hpath => ?_) (hunseen m hm hne s hs)
    exact congrArg Option.isSome (get?_remove_of_ne hpath).symm
  closed := by
    rintro t ht rfl
    exact hunseen m hm hne s hs ht

/-- The corpus without the module shares all others with the corpus. -/
theorem sharedPart : c.SharedPart (c.remove q.path) (· ≠ q.path) := by
  have hfollows : ∀ path, path ≠ q.path → ∀ m, c.get? path = some m → ∀ s ∈ m.specifiers,
      c.Follows (c.remove q.path) (· ≠ q.path) path s := by
    intro path hpath m hm s hs
    have hmem : (path, m) ∈ c.modules := Table.mem_of_get? hm
    obtain rfl : m.path = path := hc.own _ hmem
    exact hunseen.follows hc hq (List.mem_map_of_mem hmem) hpath (List.mem_append_left _ hs)
  exact ⟨fun _ hpath => (get?_remove_of_ne hpath).symm,
    fun path hpath m hm s hs => (hfollows path hpath m hm s hs).resolve?_eq,
    fun path hpath m hm s hs => (hfollows path hpath m hm s hs).closed⟩

theorem exportedNames_eq {path : String} (h : path ≠ q.path) :
    (c.remove q.path).exportedNames path = c.exportedNames path :=
  ((hunseen.sharedPart hc hq).exportedNames_eq h).symm

/-- The calls of another module add the same with and without the module. -/
theorem callShare_eq {m : Module} (hm : m ∈ c.toList) (hne : m.path ≠ q.path) (path : String) :
    (c.remove q.path).callShare (c.remove q.path).exportedNames m path = c.callShare c.exportedNames m path := by
  unfold callShare
  refine congrArg List.sum (List.map_congr_left fun call hcall => ?_)
  have htarget := ((hunseen.sharedPart hc hq).targetWith_alike
    (fun _ hpath => (hunseen.exportedNames_eq hc hq hpath).symm) hne
    fun s hs => hunseen.follows hc hq hm hne (Module.seenSpecifier_mem_of_call hcall hs)).1
  rw [htarget]

end Unseen

theorem toList_perm_remove (hc : c.Keyed) (hq : q ∈ c.toList) : c.toList.Perm (q :: (c.remove q.path).toList) := by
  have hown : c.toList.filter (·.path = q.path) = [q] := by
    have hmem : q ∈ c.toList.filter (·.path = q.path) := by simpa using hq
    have hlength := length_collected_passes hc q.path
    rw [collected_passes] at hlength
    obtain ⟨m, hm⟩ := List.length_eq_one_iff.mp (Nat.le_antisymm hlength (List.length_pos_of_mem hmem))
    rw [hm, List.mem_singleton] at hmem
    rw [hm, hmem]
  have hsplit := (List.filter_append_perm (fun m : Module => decide (m.path = q.path)) c.toList).symm
  rw [hown] at hsplit
  simpa [hc.toList_remove] using hsplit

/-- Without a module that no specifier of another one names, every other module keeps its counters, but for one credit
less for each call that the module makes to it. -/
theorem counters_remove_of_unseen (hc : c.Keyed) (hq : q ∈ c.toList) (hunseen : c.Unseen q) :
    let l := c.counters (scopeResolver c)
    let l' := (c.remove q.path).counters (scopeResolver (c.remove q.path))
    l.keys = c.paths ∧ l'.keys = c.paths.filter (· ≠ q.path) ∧
      ∀ r ∈ c.paths, r ≠ q.path → ∃ k, l.get? r = some k ∧
        l'.get? r = some { k with incomingInternal := k.incomingInternal - c.callsTo [] r q } := by
  intro l l'
  refine ⟨keys_counters hc, ?_, fun r hr hne => ?_⟩
  · rw [← hc.paths_remove]
    exact keys_counters (hc.remove q.path)
  · have hr' : r ∈ (c.remove q.path).paths := by
      rw [hc.paths_remove]
      exact List.mem_filter.mpr ⟨hr, by simpa using hne⟩
    have hdeclared : (c.remove q.path).toList.filter (·.path = r) = c.toList.filter (·.path = r) := by
      rw [hc.toList_remove, List.filter_filter]
      refine List.filter_congr fun m _ => ?_
      by_cases hm : m.path = r
      · simp [hm, hne]
      · simp [hm]
    have hcollect : (c.toList.filter (·.path = r)).foldl
          (fun k m => k.collect m ((c.remove q.path).exportedNames m.path).length) (0 : Counters) =
        (c.toList.filter (·.path = r)).foldl (fun k m => k.collect m (c.exportedNames m.path).length) 0 := by
      refine List.foldl_ext _ _ _ fun k m hm => ?_
      obtain rfl : m.path = r := by simpa using (List.mem_filter.mp hm).2
      rw [hunseen.exportedNames_eq hc hq hne]
    have hothers : (c.remove q.path).toList.map (c.callShare c.exportedNames · r) =
        (c.remove q.path).toList.map ((c.remove q.path).callShare (c.remove q.path).exportedNames · r) := by
      refine List.map_congr_left fun m hm => ?_
      rw [hc.toList_remove] at hm
      obtain ⟨hm, hother⟩ := List.mem_filter.mp hm
      exact (hunseen.callShare_eq hc hq hm (by simpa using hother) r).symm
    have hshares : (c.toList.map (c.callShare c.exportedNames · r)).sum =
        { incomingInternal := c.callsTo [] r q } +
          ((c.remove q.path).toList.map
            ((c.remove q.path).callShare (c.remove q.path).exportedNames · r)).sum := by
      rw [((toList_perm_remove hc hq).map _).sum_eq, List.map_cons, List.sum_cons, ← callShare_of_ne hne, hothers,
        namesWith_nil]
    refine ⟨_, get?_counters hc hr, ?_⟩
    rw [get?_counters (hc.remove q.path) hr', hdeclared, hcollect, hshares]
    simp only [Counters.add_def, Option.some.injEq, Counters.mk.injEq]
    omega

/-- A module that nothing sees. It calls `b.ts` directly and through the barrel, and `a.ts` once. -/
def outerCaller : Module :=
  { path := "main.ts"
    calls := [boundCall "f" (.imported (some "./index") (some "f")), boundCall "f" (.imported (some "./b") (some "f")),
      boundCall "run" (.imported (some "./a") (some "run"))] }

theorem counters_remove_of_unseen_outer :
    let c := ofModules [pairCaller, outerCaller, pairCallee, pairBarrel]
    let l := c.counters (scopeResolver c)
    let l' := (c.remove "main.ts").counters (scopeResolver (c.remove "main.ts"))
    c.callsTo [] "b.ts" outerCaller = 2 ∧ c.callsTo [] "a.ts" outerCaller = 1 ∧
      ∃ k, l.get? "b.ts" = some k ∧ l'.get? "b.ts" = some { k with incomingInternal := k.incomingInternal - 2 } := by
  intro c l l'
  have hq : outerCaller ∈ c.toList := List.mem_cons_of_mem _ List.mem_cons_self
  have hpaths : c.paths = ["a.ts", "main.ts", "b.ts", "index.ts"] := by decide
  have hunseen : c.Unseen outerCaller := by
    have hlist : c.toList = [pairCaller, outerCaller, pairCallee, pairBarrel] := rfl
    unfold Unseen
    rw [hlist]
    decide +kernel
  have hb : "b.ts" ∈ c.paths := by
    rw [hpaths]
    decide
  obtain ⟨-, -, hcounters⟩ := counters_remove_of_unseen (keyed_ofModules _) hq hunseen
  obtain ⟨k, hk, hk'⟩ := hcounters "b.ts" hb (by decide)
  have htwo : c.callsTo [] "b.ts" outerCaller = 2 := by decide +kernel
  rw [htwo] at hk'
  exact ⟨htwo, by decide +kernel, k, hk, hk'⟩

end Removal

end Corpus

end CorpusShape
