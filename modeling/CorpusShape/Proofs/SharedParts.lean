import CorpusShape.Proofs.ReexportWalks
import Mathlib.Data.List.Find

/-!
# Shared parts of corpora

Two corpora share a part if both have the same modules there, and the specifiers of these modules name the same
modules in both, again in the part. Neither the search for export sets nor a walk along re-exports leaves such a
part, so that both corpora answer alike on it, whatever else they have.
-/
namespace CorpusShape

namespace Module

def specifiers (m : Module) : List String :=
  m.reexports.map (·.specifier) ++ m.frame.filterMap fun e =>
    match e.2 with
    | .declared => none
    | .imported specifier _ => some (specifier.getD "")

theorem specifier_mem_of_reexport {m : Module} {r : Reexport} (hr : r ∈ m.reexports) :
    r.specifier ∈ m.specifiers :=
  List.mem_append_left _ (List.mem_map_of_mem hr)

theorem specifier_mem_of_binding {m : Module} {l : String} {specifier imported : Option String}
    (h : m.frame.get? l = some (.imported specifier imported)) : specifier.getD "" ∈ m.specifiers :=
  List.mem_append_right _ (List.mem_filterMap.mpr ⟨_, Table.mem_of_get? h, rfl⟩)

theorem specifier_mem_of_importedAs? {m : Module} {inner : Option String} {source : String × String}
    (h : m.importedAs? inner = some source) : source.1 ∈ m.specifiers := by
  unfold importedAs? at h
  cases hbound : (inner.filter (!·.isEmpty)).bind m.frame.get? with
  | none => simp [hbound] at h
  | some binding =>
    cases binding with
    | declared => simp [hbound] at h
    | imported specifier imported =>
      obtain ⟨l, -, hl⟩ := Option.bind_eq_some_iff.mp hbound
      rw [hbound] at h
      dsimp only at h
      split at h
      · cases h
      · obtain rfl := Option.some.inj h
        exact specifier_mem_of_binding hl

/-- Where a module says that a name leads, it says so with one of its specifiers. -/
theorem specifier_mem_of_named? {m : Module} {n : String} {source : String × String}
    (h : m.named? n = some (some source)) : source.1 ∈ m.specifiers := by
  unfold named? at h
  cases hown : m.exports.get? n with
  | some inner =>
    rw [hown] at h
    exact specifier_mem_of_importedAs? (Option.some.inj h)
  | none =>
    rw [hown] at h
    have hlisted : m.listed? n = some source := by simpa using h
    obtain ⟨r, hr, hsource⟩ := List.exists_of_findSome?_eq_some hlisted
    obtain ⟨names, -, hname⟩ := Option.bind_eq_some_iff.mp hsource
    obtain ⟨inner, -, rfl⟩ := Option.map_eq_some_iff.mp hname
    exact specifier_mem_of_reexport hr

end Module

namespace Corpus
variable {c d : Corpus} {P : String → Prop}

/-- Corpora that have the same paths but for one give a specifier the same module, unless it names that one. -/
theorem resolve?_eq_of_ne {q origin specifier : String} (hq : c.contains q = true)
    (hsame : ∀ path, path ≠ q → c.contains path = d.contains path)
    (h : c.resolve? origin specifier ≠ some q) : c.resolve? origin specifier = d.resolve? origin specifier := by
  unfold resolve? at h ⊢
  cases hbase : specifiedPath? origin specifier with
  | none => rfl
  | some base =>
    simp only [hbase] at h ⊢
    generalize candidates base = paths at h ⊢
    induction paths with
    | nil => rfl
    | cons path rest ih =>
      have hpath : path ≠ q := by
        rintro rfl
        simp [hq] at h
      rw [List.find?_cons] at h
      rw [List.find?_cons, List.find?_cons, ← hsame path hpath]
      cases hc : c.contains path with
      | true => rfl
      | false =>
        rw [hc] at h
        exact ih h

/-- Both corpora have the same modules at the paths of the part, and their specifiers name the same modules, which
lie in the part again. -/
structure SharedPart (c d : Corpus) (P : String → Prop) : Prop where
  get?_eq : ∀ path, P path → c.get? path = d.get? path
  resolve?_eq : ∀ path, P path → ∀ m, c.get? path = some m → ∀ s ∈ m.specifiers,
    c.resolve? path s = d.resolve? path s
  closed : ∀ path, P path → ∀ m, c.get? path = some m → ∀ s ∈ m.specifiers, ∀ t, c.resolve? path s = some t → P t

namespace SharedPart
variable (h : c.SharedPart d P)
include h

theorem exportsFrom_eq (visiting : List String) {path : String} (hp : P path) :
    c.exportsFrom visiting path = d.exportsFrom visiting path := by
  -- The corpora may differ in what is left to enter; it is counted in the first.
  induction hn : c.unvisited visiting using Nat.strong_induction_on generalizing visiting path with
  | h n ih =>
    rw [Corpus.exportsFrom_eq, Corpus.exportsFrom_eq, ← h.get?_eq path hp]
    cases hm : c.get? path with
    | none => rfl
    | some m =>
      by_cases hv : visiting.contains path
      · simp only [hv, if_true]
      · have hlt : c.unvisited (path :: visiting) < n := by
          rw [← hn]
          exact c.unvisited_cons_lt (Table.mem_keys_of_get? hm) hv
        have htaken : ∀ r ∈ m.reexports, c.takenOver visiting path r = d.takenOver visiting path r := by
          intro r hr
          have hs := Module.specifier_mem_of_reexport hr
          unfold takenOver
          rw [← h.resolve?_eq path hp m hm _ hs]
          cases ht : c.resolve? path r.specifier with
          | none => rfl
          | some t => simp only [ih _ hlt (path :: visiting) (h.closed path hp m hm _ hs t ht) rfl]
        simp only [hv, List.flatMap_congr htaken]

theorem exportedNames_eq {path : String} (hp : P path) : c.exportedNames path = d.exportedNames path := by
  rw [exportedNames, exportedNames, h.exportsFrom_eq [] hp]

/-- A step from the part stays in it. -/
theorem closed_stepWith {names : String → List String} {p n : String} {s : String × String} (hp : P p)
    (hs : c.stepWith names p n = some s) : P s.1 := by
  obtain ⟨m, hm⟩ := get?_of_stepWith hs
  by_cases hnames : m.Names n
  · obtain ⟨source, hnamed⟩ := Option.ne_none_iff_exists'.mp fun h => Module.named?_eq_none.mp h hnames
    rw [stepWith_eq hm, hnamed] at hs
    obtain ⟨place, rfl, hplace⟩ := Option.bind_eq_some_iff.mp hs
    obtain ⟨t, ht, rfl⟩ := Option.map_eq_some_iff.mp hplace
    exact h.closed p hp m hm _ (Module.specifier_mem_of_named? hnamed) t ht
  · obtain ⟨-, ⟨m', hm', r, hr, -, ht⟩, -⟩ := eq_of_stepWith_of_not_names hm hnames hs
    exact h.closed p hp m' hm' _ (Module.specifier_mem_of_reexport hr) _ ht

section Walks
variable {names names' : String → List String} (hnames : ∀ q, P q → names q = names' q)
include hnames

theorem stepWith_eq {p : String} (hp : P p) (n : String) : c.stepWith names p n = d.stepWith names' p n := by
  cases hm : c.get? p with
  | none => rw [stepWith_of_missing hm, stepWith_of_missing (h.get?_eq p hp ▸ hm)]
  | some m =>
    rw [Corpus.stepWith_eq hm, Corpus.stepWith_eq (h.get?_eq p hp ▸ hm)]
    cases hnamed : m.named? n with
    | some source =>
      cases source with
      | none => rfl
      | some source =>
        have hs := Module.specifier_mem_of_named? hnamed
        simp only [Option.bind_some, placeOf?, h.resolve?_eq p hp m hm _ hs]
    | none =>
      have htargets : c.starTargets p m = d.starTargets p m := by
        refine List.filterMap_congr fun r hr => ?_
        exact h.resolve?_eq p hp m hm _ (Module.specifier_mem_of_reexport (List.mem_of_mem_filter hr))
      have hfind : ((c.starTargets p m).find? fun t => (names t).contains n) =
          (c.starTargets p m).find? fun t => (names' t).contains n := by
        refine List.find?_congr fun t ht => ?_
        obtain ⟨r, hr, htarget⟩ := List.mem_filterMap.mp ht
        have hs := Module.specifier_mem_of_reexport (List.mem_of_mem_filter hr)
        rw [hnames t (h.closed p hp m hm _ hs t htarget)]
      rw [← htargets, hfind]

/-- Walks that have been to the same places of the part go on alike. -/
theorem walkFrom_eq {visited visited' : List (String × String)}
    (hvisited : ∀ a, P a.1 → (a ∈ visited ↔ a ∈ visited')) (steps : Nat) {a : String × String} (ha : P a.1) :
    c.walkFrom names steps visited a = d.walkFrom names' steps visited' a := by
  induction steps generalizing visited visited' a with
  | zero => rfl
  | succ steps ih =>
    by_cases hv : a ∈ visited
    · rw [walkFrom_of_mem _ hv, walkFrom_of_mem _ ((hvisited a ha).mp hv)]
    · have hv' : a ∉ visited' := fun hmem => hv ((hvisited a ha).mpr hmem)
      have hsame := h.stepWith_eq hnames ha a.2
      cases hstep : c.stepWith names a.1 a.2 with
      | none => rw [walkFrom_of_stuck _ hstep, walkFrom_of_stuck _ (hsame ▸ hstep)]
      | some b =>
        have hvisited' : ∀ e, P e.1 → (e ∈ a :: visited ↔ e ∈ a :: visited') := by
          intro e he
          rw [List.mem_cons, List.mem_cons, hvisited e he]
        rw [walkFrom_of_moves _ hv hstep, walkFrom_of_moves _ hv' (hsame ▸ hstep),
          ih hvisited' (h.closed_stepWith ha hstep)]

end Walks

end SharedPart

end Corpus

end CorpusShape
