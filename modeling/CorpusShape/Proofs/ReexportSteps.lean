import CorpusShape.Proofs.ExportSets
import CorpusShape.Proofs.Targets

/-!
# Steps along re-exports

A module names some of what it exposes: its own exports, and the names that its re-exports list. For these a step
goes where the export or the list says, and nothing else is asked. For every other name the star re-exports are
tried in their order, and the first target that exports the name is taken. Export sets unfold one edge at a time,
so that the search for export sets and the steps see the same names behind a star.
-/
namespace CorpusShape

namespace Reexport

theorem isStar_iff {r : Reexport} : r.isStar = true ↔ r.names = none ∧ r.whole = none := by
  simp [isStar]

theorem shaped_of_isStar {r : Reexport} (h : r.isStar = true) : r.Shaped := by
  obtain ⟨specifier, names, whole⟩ := r
  obtain ⟨rfl, rfl⟩ := isStar_iff.mp h
  exact .star specifier

end Reexport

namespace Module

/-- The specifier and the name there that an exported local name stands for, if it is imported by name. -/
def importedAs? (m : Module) (inner : Option String) : Option (String × String) :=
  match (inner.filter (!·.isEmpty)).bind m.frame.get? with
  | some (.imported specifier imported) =>
    if imported == some "*" then none
    else some (specifier.getD "", (imported.filter (!·.isEmpty)).getD "default")
  | _ => none

theorem importedAs?_of_declared {m : Module} {inner : Option String}
    (h : inner.bind m.frame.get? = some .declared) : m.importedAs? inner = none := by
  cases inner with
  | none => rfl
  | some l =>
    have hl : m.frame.get? l = some .declared := h
    by_cases hempty : l = ""
    · have hfilter : (some l).filter (!·.isEmpty) = none := by simp [hempty]
      rw [importedAs?, hfilter]
      rfl
    · have hfilter : (some l).filter (!·.isEmpty) = some l := by simp [hempty]
      rw [importedAs?, hfilter, Option.bind_some, hl]

theorem importedAs?_of_imported {m : Module} {inner specifier n : String} (hinner : inner ≠ "")
    (hbound : m.frame.get? inner = some (.imported (some specifier) (some n))) (hempty : n ≠ "") (hwhole : n ≠ "*") :
    m.importedAs? (some inner) = some (specifier, n) := by
  have hkept : (some inner).filter (!·.isEmpty) = some inner := by simp [hinner]
  have hname : (some n).filter (!·.isEmpty) = some n := by simp [hempty]
  have hstar : (some n == some "*") = false := by simpa using hwhole
  rw [importedAs?, hkept, Option.bind_some, hbound]
  simp only [hstar, hname]
  rfl

/-- The specifier and the name there that the first re-export listing the name gives. -/
def listed? (m : Module) (n : String) : Option (String × String) :=
  m.reexports.findSome? fun r => r.names.bind fun names => (names.get? n).map (r.specifier, ·)

/-- Where a name leads that the module names itself, which may be nowhere. Its own exports go before its lists. -/
def named? (m : Module) (n : String) : Option (Option (String × String)) :=
  match m.exports.get? n with
  | some inner => some (m.importedAs? inner)
  | none => (m.listed? n).map some

/-- The name is an export of the module itself, or listed by name in one of its re-exports. -/
def Names (m : Module) (n : String) : Prop :=
  n ∈ m.exports.keys ∨ ∃ r ∈ m.reexports, ∃ names, r.names = some names ∧ n ∈ names.keys

theorem Names.provides {m : Module} {n : String} (h : m.Names n) : m.Provides n := by
  rcases h with hown | ⟨r, hr, names, hnames, hn⟩
  · exact Or.inl hown
  · exact Or.inr ⟨r, hr, Or.inl ⟨names, hnames, hn⟩⟩

theorem listed?_eq_none {m : Module} {n : String} :
    m.listed? n = none ↔ ∀ r ∈ m.reexports, ∀ names, r.names = some names → n ∉ names.keys := by
  rw [listed?, List.findSome?_eq_none_iff]
  refine forall₂_congr fun r _ => ?_
  cases r.names with
  | none => simp
  | some names => simp [Table.get?_eq_none_iff]

theorem listed?_of_first {m : Module} {n x : String} {r : Reexport} {names : Table String}
    {before after : List Reexport} (hsplit : m.reexports = before ++ r :: after)
    (hbefore : ∀ q ∈ before, ∀ others, q.names = some others → x ∉ others.keys) (hnames : r.names = some names)
    (hlists : names.get? x = some n) : m.listed? x = some (r.specifier, n) := by
  have hnone : ({ m with reexports := before } : Module).listed? x = none := listed?_eq_none.mpr hbefore
  unfold listed? at hnone ⊢
  rw [hsplit, List.findSome?_append, hnone]
  simp [hnames, hlists]

theorem named?_eq_none {m : Module} {n : String} : m.named? n = none ↔ ¬m.Names n := by
  unfold named? Names
  cases hg : m.exports.get? n with
  | some inner => simp [Table.mem_keys_of_get? hg]
  | none =>
    have hown : n ∉ m.exports.keys := Table.get?_eq_none_iff.mp hg
    simp [hown, listed?_eq_none]

end Module

namespace Corpus
variable {c : Corpus}

/-- The modules that the star re-exports of a module at `path` lead to, in their order. -/
def starTargets (c : Corpus) (path : String) (m : Module) : List String :=
  (m.reexports.filter (·.isStar)).filterMap fun r => c.resolve? path r.specifier

/-- The place that a specifier and a name there stand for, seen from the module at `path`. -/
def placeOf? (c : Corpus) (path : String) (source : String × String) : Option (String × String) :=
  (c.resolve? path source.1).map (·, source.2)

/-- A step along re-exports, with the given answers for the export sets. -/
def stepWith (c : Corpus) (names : String → List String) (path name : String) : Option (String × String) :=
  (c.reexportStep (m := Id) names path name).run

theorem run_reexportStep (c : Corpus) (memory : ExportMemory) (path name : String) :
    ((c.reexportStep c.rememberedNames path name).run memory).1 = c.stepWith (c.namesWith memory) path name :=
  (agrees_reexportStep path name memory rfl).1

theorem run_rememberedNames (c : Corpus) (memory : ExportMemory) (path : String) :
    ((c.rememberedNames path).run memory).1 = c.namesWith memory path :=
  (agrees_rememberedNames path memory rfl).1

theorem mem_starTargets {p t : String} {m : Module} (hm : c.get? p = some m) :
    t ∈ c.starTargets p m ↔ c.StarEdge p t := by
  simp [starTargets, StarEdge, hm, and_assoc]

section Steps
variable {names : String → List String} {p n : String} {m : Module}

/-- The first star whose target exports the name is the one that counts. -/
theorem find?_starTargets_of_first {t : String} {r : Reexport} {before after : List Reexport}
    (hsplit : m.reexports = before ++ r :: after)
    (hbefore : ∀ q ∈ before, q.isStar = true → ∀ u, c.resolve? p q.specifier = some u → n ∉ names u)
    (hstar : r.isStar = true) (ht : c.resolve? p r.specifier = some t) (hn : n ∈ names t) :
    ((c.starTargets p m).find? fun u => (names u).contains n) = some t := by
  have hnone : ((c.starTargets p { m with reexports := before }).find? fun u => (names u).contains n) = none := by
    refine List.find?_eq_none.mpr fun u hu => ?_
    obtain ⟨q, hq, htarget⟩ := List.mem_filterMap.mp hu
    obtain ⟨hmem, hqstar⟩ := List.mem_filter.mp hq
    simpa using hbefore q hmem hqstar u htarget
  unfold starTargets at hnone ⊢
  rw [hsplit, List.filter_append, List.filterMap_append, List.find?_append, hnone]
  simp [hstar, ht, hn]

theorem firstStar_eq_find? (targets : List String) :
    (reexportStep.firstStar (m := Id) names n targets).run =
      (targets.find? fun t => (names t).contains n).map (·, n) := by
  induction targets with
  | nil => rfl
  | cons t rest ih =>
    have hrun : (reexportStep.firstStar (m := Id) names n (t :: rest)).run =
        if (names t).contains n then some (t, n) else (reexportStep.firstStar (m := Id) names n rest).run := by
      rw [reexportStep.firstStar]
      exact apply_ite Id.run _ _ _
    rw [hrun, ih, List.find?_cons]
    cases (names t).contains n with
    | true => rfl
    | false => rfl

/-- What a step does: it goes where the module says for the names it names, and else to the first target of a star
that exports the name. -/
theorem stepWith_eq (hm : c.get? p = some m) :
    c.stepWith names p n =
      match m.named? n with
      | some source => source.bind (c.placeOf? p)
      | none =>
        if n = "default" then none
        else ((c.starTargets p m).find? fun t => (names t).contains n).map (·, n) := by
  unfold stepWith reexportStep Module.named?
  rw [hm]
  dsimp only
  cases m.exports.get? n with
  | some inner =>
    dsimp only
    unfold Module.importedAs?
    cases (inner.filter (!·.isEmpty)).bind m.frame.get? with
    | none => rfl
    | some binding =>
      cases binding with
      | declared => rfl
      | imported specifier imported =>
        dsimp only
        split
        · rfl
        · rfl
  | none =>
    dsimp only
    rw [← Module.listed?]
    cases m.listed? n with
    | some source => rfl
    | none =>
      dsimp only [Option.map_none]
      by_cases hdefault : n = "default"
      · simp [hdefault]
      · simp only [hdefault, beq_iff_eq, if_false]
        exact firstStar_eq_find? _

theorem stepWith_of_missing (hm : c.get? p = none) : c.stepWith names p n = none := by
  rw [stepWith, reexportStep, hm]
  rfl

theorem get?_of_stepWith {s : String × String} (h : c.stepWith names p n = some s) :
    ∃ m, c.get? p = some m := by
  cases hm : c.get? p with
  | some m => exact ⟨m, rfl⟩
  | none =>
    rw [stepWith_of_missing hm] at h
    cases h

/-- A name that the module does not name leads to a star target that exports it, if there is one. -/
theorem stepWith_isSome_of_not_names (hm : c.get? p = some m) (hn : ¬m.Names n) :
    (c.stepWith names p n).isSome ↔ n ≠ "default" ∧ ∃ t, c.StarEdge p t ∧ n ∈ names t := by
  rw [stepWith_eq hm, Module.named?_eq_none.mpr hn]
  by_cases hdefault : n = "default"
  · simp [hdefault]
  · simp [hdefault, mem_starTargets hm]

theorem eq_of_stepWith_of_not_names (hm : c.get? p = some m) (hn : ¬m.Names n) {s : String × String}
    (hs : c.stepWith names p n = some s) : s.2 = n ∧ c.StarEdge p s.1 ∧ n ∈ names s.1 := by
  rw [stepWith_eq hm, Module.named?_eq_none.mpr hn] at hs
  by_cases hdefault : n = "default"
  · simp [hdefault] at hs
  · simp only [hdefault, if_false, Option.map_eq_some_iff] at hs
    obtain ⟨t, ht, rfl⟩ := hs
    have hmem : t ∈ c.starTargets p m := List.mem_of_find?_eq_some ht
    have hcontains := List.find?_some ht
    exact ⟨rfl, (mem_starTargets hm).mp hmem, by simpa using hcontains⟩

end Steps

section ExportSets
variable (hc : c.WellShaped) {p n : String}
include hc

/-- But for the default name, a module exports what is provided by the modules that its star re-exports reach. -/
theorem mem_exportedNames_iff_reaches (hne : n ≠ "default") :
    n ∈ c.exportedNames p ↔ ∃ q, Relation.ReflTransGen c.StarEdge p q ∧ c.ProvidedBy q n := by
  rw [exportedNames, mem_sortedNames]
  constructor
  · intro h
    rcases provided_of_mem_exportsFrom hc h with hown | ⟨-, q, hwalk, hprovided⟩
    · exact ⟨p, .refl, hown⟩
    · exact ⟨q, hwalk.to_reflTransGen, hprovided⟩
  · rintro ⟨q, hwalk, hprovided⟩
    exact (SimpleWalk.of_reachable hwalk).mem_exportsFrom hc hprovided hne

/-- Export sets unfold one edge at a time, although the search from the target of an edge may enter modules that the
search from its source is in already. -/
theorem mem_exportedNames :
    n ∈ c.exportedNames p ↔
      c.ProvidedBy p n ∨ n ≠ "default" ∧ ∃ q, c.StarEdge p q ∧ n ∈ c.exportedNames q := by
  by_cases hne : n = "default"
  · rw [exportedNames, mem_sortedNames, mem_exportsFrom hc]
    simp [hne]
  · -- Reachability forgets where a search started, and so what it had on its way.
    simp only [mem_exportedNames_iff_reaches hc hne]
    constructor
    · rintro ⟨q, hwalk, hprovided⟩
      rcases hwalk.cases_head with rfl | ⟨t, hedge, hrest⟩
      · exact Or.inl hprovided
      · exact Or.inr ⟨hne, t, hedge, q, hrest, hprovided⟩
    · rintro (hown | ⟨-, t, hedge, q, hrest, hprovided⟩)
      · exact ⟨p, .refl, hown⟩
      · exact ⟨q, .head hedge hrest, hprovided⟩

/-- For a name that a module does not provide, the export set of the module and the step from it agree: the name is
exported exactly if there is a step, and the step keeps the name and leads to a star target that exports it. -/
theorem star_readings_agree {memory : ExportMemory} (hmemory : c.Remembered memory) {m : Module}
    (hm : c.get? p = some m) (hn : ¬m.Provides n) :
    (n ∈ ((c.rememberedNames p).run memory).1 ↔
      ((c.reexportStep c.rememberedNames p n).run memory).1 ≠ none) ∧
    ∀ s, ((c.reexportStep c.rememberedNames p n).run memory).1 = some s →
      ∃ t, s = (t, n) ∧ c.StarEdge p t ∧ n ∈ ((c.rememberedNames t).run memory).1 := by
  have hnames : ¬m.Names n := fun h => hn h.provides
  have hown : ¬c.ProvidedBy p n := by simpa [ProvidedBy, hm] using hn
  simp only [run_rememberedNames, run_reexportStep, hmemory.namesWith_eq]
  constructor
  · rw [mem_exportedNames hc, ← Option.isSome_iff_ne_none, stepWith_isSome_of_not_names hm hnames]
    simp [hown]
  · intro s hs
    obtain ⟨hname, hedge, hexported⟩ := eq_of_stepWith_of_not_names hm hnames hs
    exact ⟨s.1, Prod.ext rfl hname, hedge, hexported⟩

end ExportSets

/-- A barrel that takes over a second one. -/
def crossedOuter : Module := { path := "a.ts", reexports := [{ specifier := "./b" }] }

/-- The second barrel, which takes over the first one before the module that declares something. -/
def crossedInner : Module := { path := "b.ts", reexports := [{ specifier := "./a" }, { specifier := "./c" }] }

def crossedLeaf : Module :=
  { path := "c.ts", exports := [("f", some "f")], frame := [("f", .declared)] }

def crossedBarrels : Corpus := ofModules [crossedOuter, crossedInner, crossedLeaf]

theorem star_readings_agree_crossed :
    ∃ t, ((crossedBarrels.reexportStep crossedBarrels.rememberedNames "b.ts" "f").run []).1 = some (t, "f") ∧
      "f" ∈ ((crossedBarrels.rememberedNames t).run []).1 := by
  have hstars : ∀ m ∈ crossedBarrels.toList, ∀ r ∈ m.reexports, r.isStar = true := by decide
  have hc : crossedBarrels.WellShaped := fun m hm r hr => Reexport.shaped_of_isStar (hstars m hm r hr)
  have hprovides : ¬crossedInner.Provides "f" := by simp [crossedInner, Module.Provides, Reexport.Lists]
  obtain ⟨hiff, hstep⟩ := star_readings_agree hc (remembered_nil _) (p := "b.ts") (n := "f") rfl hprovides
  have hexported : "f" ∈ ((crossedBarrels.rememberedNames "b.ts").run []).1 := by decide +kernel
  obtain ⟨s, hs⟩ := Option.ne_none_iff_exists'.mp (hiff.mp hexported)
  obtain ⟨t, rfl, -, ht⟩ := hstep s hs
  exact ⟨t, hs, ht⟩

end Corpus

end CorpusShape
