import CorpusShape.Proofs.ReexportSteps
import Mathlib.Data.List.Perm.Subperm

/-!
# Walks along re-exports

The search for a declaring module walks from place to place, a place being a module with a name that it exposes.
Every place has at most one step, so the walk is the only one there is; it ends where no step leads on, where it has
been before, or when its steps are used up. Where there are no more places than steps it ends in a place without a
step or on a loop. Stars that lead back are not told from stars that lead on: of the targets that export a name the
first is taken, also if it has the name only through the module that the walk comes from.
-/
namespace CorpusShape

namespace Corpus
variable {c : Corpus} {names : String → List String}

def Moves (c : Corpus) (names : String → List String) (a b : String × String) : Prop :=
  c.stepWith names a.1 a.2 = some b

/-- The places that a walk moves to after the place it is in, which has been to the places in `visited`. -/
def walkFrom (c : Corpus) (names : String → List String) :
    Nat → List (String × String) → String × String → List (String × String)
  | 0, _, _ => []
  | steps + 1, visited, a =>
    if visited.contains a then []
    else
      match c.stepWith names a.1 a.2 with
      | none => []
      | some b => b :: c.walkFrom names steps (a :: visited) b

def walk (c : Corpus) (names : String → List String) (a : String × String) : List (String × String) :=
  c.walkFrom names reexportLimit [] a

section Equations
variable {visited : List (String × String)} {a b : String × String} (steps : Nat)

theorem walkFrom_of_mem (h : a ∈ visited) : c.walkFrom names steps visited a = [] := by
  cases steps with
  | zero => rfl
  | succ steps => simp [walkFrom, h]

theorem walkFrom_of_stuck (h : c.stepWith names a.1 a.2 = none) : c.walkFrom names steps visited a = [] := by
  cases steps with
  | zero => rfl
  | succ steps => simp [walkFrom, h]

theorem walkFrom_of_moves (hnew : a ∉ visited) (h : c.Moves names a b) :
    c.walkFrom names (steps + 1) visited a = b :: c.walkFrom names steps (a :: visited) b := by
  have hstep : c.stepWith names a.1 a.2 = some b := h
  simp [walkFrom, hnew, hstep]

end Equations

/-- A walk that stops before its steps are used up does not need the last one. -/
theorem walkFrom_succ_of_length_le {steps : Nat} {visited : List (String × String)} {a : String × String}
    (h : (c.walkFrom names (steps + 1) visited a).length ≤ steps) :
    c.walkFrom names (steps + 1) visited a = c.walkFrom names steps visited a := by
  induction steps generalizing visited a with
  | zero => exact List.length_eq_zero_iff.mp (Nat.le_zero.mp h)
  | succ steps ih =>
    by_cases hv : a ∈ visited
    · rw [walkFrom_of_mem _ hv, walkFrom_of_mem _ hv]
    · cases hstep : c.stepWith names a.1 a.2 with
      | none => rw [walkFrom_of_stuck _ hstep, walkFrom_of_stuck _ hstep]
      | some b =>
        rw [walkFrom_of_moves _ hv hstep, List.length_cons] at h
        rw [walkFrom_of_moves _ hv hstep, walkFrom_of_moves _ hv hstep, ih (Nat.le_of_succ_le_succ h)]

theorem head?_walk (a : String × String) : (c.walk names a).head? = c.stepWith names a.1 a.2 := by
  cases h : c.stepWith names a.1 a.2 with
  | none => rw [walk, walkFrom_of_stuck _ h, List.head?_nil]
  | some b => rw [walk, reexportLimit, walkFrom_of_moves _ List.not_mem_nil h, List.head?_cons]

theorem run_declaringFrom (steps : Nat) (visited : List (String × String)) (a : String × String) :
    (c.declaringFrom (m := Id) names steps visited a.1 a.2).run =
      ((c.walkFrom names steps visited a).getLastD a).1 := by
  induction steps generalizing visited a with
  | zero => rfl
  | succ steps ih =>
    rw [declaringFrom, walkFrom]
    by_cases hv : visited.contains a
    · have hv' : visited.contains (a.1, a.2) = true := hv
      rw [if_pos hv, if_pos hv']
      rfl
    · have hv' : ¬visited.contains (a.1, a.2) = true := hv
      rw [if_neg hv, if_neg hv']
      have hbind : ∀ k : Option (String × String) → Id String,
          (c.reexportStep (m := Id) names a.1 a.2 >>= k).run = (k (c.stepWith names a.1 a.2)).run := fun _ => rfl
      rw [hbind]
      cases c.stepWith names a.1 a.2 with
      | none => rfl
      | some b =>
        dsimp only
        rw [List.getLastD_cons]
        exact ih _ b

/-- The declaring module is that of the last place of the walk. -/
theorem run_declaringModule (c : Corpus) (memory : ExportMemory) (path name : String) :
    ((c.declaringModule c.rememberedNames path name).run memory).1 =
      ((c.walk (c.namesWith memory) (path, name)).getLastD (path, name)).1 := by
  rw [(agrees_declaringModule path name memory rfl).1]
  exact run_declaringFrom reexportLimit [] (path, name)

section Ends
variable {places : List (String × String)}

/-- What a walk keeps of the places behind it: they are distinct, lie among the given ones, and lead to where it
is. -/
structure Behind (c : Corpus) (names : String → List String) (places visited : List (String × String))
    (a : String × String) : Prop where
  mem : a ∈ places
  subset : visited ⊆ places
  nodup : visited.Nodup
  leads : ∀ v ∈ visited, Relation.TransGen (c.Moves names) v a

theorem behind_nil {a : String × String} (ha : a ∈ places) : c.Behind names places [] a :=
  ⟨ha, List.nil_subset _, List.nodup_nil, by simp⟩

namespace Behind
variable {visited : List (String × String)} {a b : String × String}

theorem move (h : c.Behind names places visited a)
    (hclosed : ∀ a ∈ places, ∀ b, c.Moves names a b → b ∈ places) (hnew : a ∉ visited) (hmove : c.Moves names a b) :
    c.Behind names places (a :: visited) b where
  mem := hclosed a h.mem b hmove
  subset := List.cons_subset.mpr ⟨h.mem, h.subset⟩
  nodup := List.nodup_cons.mpr ⟨hnew, h.nodup⟩
  leads := by
    intro v hv
    rcases List.mem_cons.mp hv with rfl | hv
    · exact .single hmove
    · exact (h.leads v hv).tail hmove

/-- A walk that has been to as many places as there are is where it has been before. -/
theorem mem_visited (h : c.Behind names places visited a) (hfull : places.length ≤ visited.length) :
    a ∈ visited := by
  by_contra hnew
  have hnodup : (a :: visited).Nodup := List.nodup_cons.mpr ⟨hnew, h.nodup⟩
  have hsubset : a :: visited ⊆ places := List.cons_subset.mpr ⟨h.mem, h.subset⟩
  have hlength := (List.subperm_of_subset hnodup hsubset).length_le
  rw [List.length_cons] at hlength
  omega

/-- A walk with steps enough for all places ends in one without a step, or in one that leads back to itself. -/
theorem walkFrom_ends (h : c.Behind names places visited a)
    (hclosed : ∀ a ∈ places, ∀ b, c.Moves names a b → b ∈ places) {steps : Nat}
    (hsteps : places.length ≤ visited.length + steps) :
    ∃ e, (c.walkFrom names steps visited a).getLastD a = e ∧ Relation.ReflTransGen (c.Moves names) a e ∧
      (c.stepWith names e.1 e.2 = none ∨ Relation.TransGen (c.Moves names) e e) := by
  -- The induction is on the steps that are left; each move trades one for a place behind.
  induction steps generalizing visited a with
  | zero => exact ⟨a, rfl, .refl, Or.inr (h.leads a (h.mem_visited hsteps))⟩
  | succ steps ih =>
    by_cases hv : a ∈ visited
    · exact ⟨a, by rw [walkFrom_of_mem _ hv]; rfl, .refl, Or.inr (h.leads a hv)⟩
    · cases hstep : c.stepWith names a.1 a.2 with
      | none => exact ⟨a, by rw [walkFrom_of_stuck _ hstep]; rfl, .refl, Or.inl hstep⟩
      | some b =>
        have hlength : places.length ≤ (a :: visited).length + steps := by
          rw [List.length_cons]
          omega
        obtain ⟨e, hlast, hwalk, hend⟩ := ih (h.move hclosed hv hstep) hlength
        refine ⟨e, ?_, .head hstep hwalk, hend⟩
        rw [walkFrom_of_moves _ hv hstep, List.getLastD_cons]
        exact hlast

end Behind

end Ends

def Declares (c : Corpus) (p n : String) : Prop := ∃ m, c.get? p = some m ∧ n ∈ m.exports.keys

/-- Every re-export takes over all of a module of the corpus, and every exported name is declared in the module that
exports it. -/
structure StarsOnly (c : Corpus) : Prop where
  stars : ∀ e ∈ c.modules, ∀ r ∈ e.2.reexports, r.isStar = true ∧ (c.resolve? e.1 r.specifier).isSome = true
  declared : ∀ e ∈ c.modules, ∀ x ∈ e.2.exports, x.2.bind e.2.frame.get? = some .declared

namespace StarsOnly
variable (hc : c.StarsOnly) {p n : String} {m : Module}
include hc

theorem isStar (hm : c.get? p = some m) {r : Reexport} (hr : r ∈ m.reexports) : r.isStar = true :=
  (hc.stars (p, m) (Table.mem_of_get? hm) r hr).1

theorem wellShaped : c.WellShaped := by
  intro m hm r hr
  obtain ⟨e, he, rfl⟩ := List.mem_map.mp hm
  exact Reexport.shaped_of_isStar (hc.stars e he r hr).1

theorem provides_iff (hm : c.get? p = some m) : m.Provides n ↔ n ∈ m.exports.keys := by
  refine ⟨fun h => ?_, Or.inl⟩
  rcases h with hown | ⟨r, hr, hlists⟩
  · exact hown
  · obtain ⟨hnames, hwhole⟩ := Reexport.isStar_iff.mp (hc.isStar hm hr)
    simp [Reexport.Lists, hnames, hwhole] at hlists

theorem declares_of_names (hm : c.get? p = some m) (h : m.Names n) : c.Declares p n :=
  ⟨m, hm, (hc.provides_iff hm).mp h.provides⟩

/-- A module that declares a name is where a walk for it ends. -/
theorem stepWith_of_declares (h : c.Declares p n) : c.stepWith names p n = none := by
  obtain ⟨m, hm, hn⟩ := h
  obtain ⟨inner, hinner⟩ := Table.get?_of_mem_keys hn
  have hdeclared := hc.declared (p, m) (Table.mem_of_get? hm) (n, inner) (Table.mem_of_get? hinner)
  have hnamed : m.named? n = some none := by simp [Module.named?, hinner, Module.importedAs?_of_declared hdeclared]
  rw [stepWith_eq hm, hnamed]
  rfl

/-- Every move of a walk keeps the name and follows a star. -/
theorem starEdge_of_moves {a b : String × String} (h : c.Moves names a b) :
    b.2 = a.2 ∧ c.StarEdge a.1 b.1 ∧ a.2 ∈ names b.1 := by
  have hstep : c.stepWith names a.1 a.2 = some b := h
  obtain ⟨m, hm⟩ := get?_of_stepWith hstep
  refine eq_of_stepWith_of_not_names hm (fun hnames => ?_) hstep
  rw [hc.stepWith_of_declares (hc.declares_of_names hm hnames)] at hstep
  cases hstep

/-- A module that exports a name has a step for it, unless it declares it. -/
theorem stepWith_eq_none_iff (hn : n ∈ c.exportedNames p) :
    c.stepWith c.exportedNames p n = none ↔ c.Declares p n := by
  refine ⟨fun hstuck => ?_, hc.stepWith_of_declares⟩
  rcases (mem_exportedNames hc.wellShaped).mp hn with ⟨m, hm, hprovides⟩ | ⟨hne, t, hedge, ht⟩
  · exact ⟨m, hm, (hc.provides_iff hm).mp hprovides⟩
  · obtain ⟨m, hm, -⟩ := id hedge
    by_contra hdeclares
    have hnames : ¬m.Names n := fun h => hdeclares (hc.declares_of_names hm h)
    have hsome := (stepWith_isSome_of_not_names hm hnames).mpr ⟨hne, t, hedge, ht⟩
    rw [hstuck] at hsome
    cases hsome

/-- The walk for an exported name ends at a place that still exports the name and has no step, or lies on a loop. -/
theorem walk_ends (hsize : c.size ≤ reexportLimit) (hn : n ∈ c.exportedNames p) :
    ∃ d, ((c.walk c.exportedNames (p, n)).getLastD (p, n)) = (d, n) ∧
      Relation.ReflTransGen c.StarEdge p d ∧ n ∈ c.exportedNames d ∧
      (c.stepWith c.exportedNames d n = none ∨
        Relation.TransGen (c.Moves c.exportedNames) (d, n) (d, n)) := by
  have hp : p ∈ c.paths := by
    rcases (mem_exportedNames hc.wellShaped).mp hn with ⟨m, hm, -⟩ | ⟨-, t, ⟨m, hm, -⟩, -⟩
    · exact Table.mem_keys_of_get? hm
    · exact Table.mem_keys_of_get? hm
  have hclosed : ∀ a ∈ c.paths.map (·, n), ∀ b, c.Moves c.exportedNames a b → b ∈ c.paths.map (·, n) := by
    rintro a ha ⟨t, source⟩ hmove
    obtain ⟨q, -, rfl⟩ := List.mem_map.mp ha
    obtain ⟨rfl, ⟨m, -, r, -, -, hr⟩, -⟩ := hc.starEdge_of_moves hmove
    exact List.mem_map_of_mem (resolve?_mem hr)
  have hlength : (c.paths.map (·, n)).length ≤ ([] : List (String × String)).length + reexportLimit := by
    simpa [paths, Table.keys, size] using hsize
  obtain ⟨e, hlast, hwalk, hend⟩ :=
    (behind_nil (List.mem_map_of_mem hp)).walkFrom_ends hclosed hlength
  have hstars : Relation.ReflTransGen c.StarEdge p e.1 :=
    hwalk.lift Prod.fst fun _ _ hmove => (hc.starEdge_of_moves hmove).2.1
  have hname : e.2 = n ∧ n ∈ c.exportedNames e.1 := by
    clear hlast hend hstars
    induction hwalk with
    | refl => exact ⟨rfl, hn⟩
    | tail _ hmove ih =>
      obtain ⟨hkeep, -, hexported⟩ := hc.starEdge_of_moves hmove
      exact ⟨hkeep.trans ih.1, ih.1 ▸ hexported⟩
  obtain ⟨d, rfl⟩ : ∃ d, e = (d, n) := ⟨e.1, Prod.ext rfl hname.1⟩
  exact ⟨d, hlast, hstars, hname.2, hend⟩

end StarsOnly

/-- Where all re-exports are stars, the walk for an exported name follows stars and never leaves the modules that
export the name. It ends in a module that declares the name, unless its own moves lead back to where it ends; this
cannot happen if the stars that can be reached have no cycle. -/
theorem star_walk_declares_unless_looping (hc : c.StarsOnly) (hsize : c.size ≤ reexportLimit)
    {memory : ExportMemory} (hmemory : c.Remembered memory) {p n : String}
    (hn : n ∈ ((c.rememberedNames p).run memory).1) :
    let d := ((c.declaringModule c.rememberedNames p n).run memory).1
    Relation.ReflTransGen c.StarEdge p d ∧ n ∈ ((c.rememberedNames d).run memory).1 ∧
      (c.Declares d n ↔ ¬Relation.TransGen (c.Moves c.exportedNames) (d, n) (d, n)) ∧
      ((∀ q, Relation.ReflTransGen c.StarEdge p q → ¬Relation.TransGen c.StarEdge q q) → c.Declares d n) := by
  simp only [run_rememberedNames, run_declaringModule, hmemory.namesWith_eq] at hn ⊢
  obtain ⟨d, hlast, hstars, hexported, hend⟩ := hc.walk_ends hsize hn
  have hstuck := hc.stepWith_eq_none_iff hexported
  rw [hlast]
  refine ⟨hstars, hexported, ⟨fun hdeclares hloop => ?_, fun hloop => ?_⟩, fun hacyclic => ?_⟩
  · obtain ⟨b, hmove, -⟩ := Relation.TransGen.head'_iff.mp hloop
    have hstep : c.stepWith c.exportedNames d n = some b := hmove
    rw [hstuck.mpr hdeclares] at hstep
    cases hstep
  · exact hstuck.mp (hend.resolve_right hloop)
  · refine hstuck.mp (hend.resolve_right fun hloop => hacyclic d hstars ?_)
    exact hloop.lift Prod.fst fun _ _ hmove => (hc.starEdge_of_moves hmove).2.1

/-- The crossed barrels with the stars of the second one in the other order: the walk meets the leaf first. -/
def straightBarrels : Corpus :=
  ofModules [crossedOuter, { crossedInner with reexports := crossedInner.reexports.reverse }, crossedLeaf]

/-- What is read of the barrels in either order, evaluated together. -/
theorem readings_of_barrels :
    ((∀ e ∈ straightBarrels.modules, ∀ r ∈ e.2.reexports,
        r.isStar = true ∧ (straightBarrels.resolve? e.1 r.specifier).isSome = true) ∧
      "f" ∈ ((straightBarrels.rememberedNames "a.ts").run []).1 ∧
      ((straightBarrels.declaringModule straightBarrels.rememberedNames "a.ts" "f").run []).1 = "c.ts") ∧
    (∀ e ∈ crossedBarrels.modules, ∀ r ∈ e.2.reexports,
        r.isStar = true ∧ (crossedBarrels.resolve? e.1 r.specifier).isSome = true) ∧
      "f" ∈ ((crossedBarrels.rememberedNames "a.ts").run []).1 ∧
      ((crossedBarrels.declaringModule crossedBarrels.rememberedNames "a.ts" "f").run []).1 = "a.ts" := by
  decide +kernel

theorem star_walk_declares_unless_looping_straight :
    let d := ((straightBarrels.declaringModule straightBarrels.rememberedNames "a.ts" "f").run []).1
    d = "c.ts" ∧ Relation.ReflTransGen straightBarrels.StarEdge "a.ts" d ∧
      ¬Relation.TransGen (straightBarrels.Moves straightBarrels.exportedNames) (d, "f") (d, "f") := by
  intro d
  obtain ⟨hresolved, hn, hd⟩ := readings_of_barrels.1
  change d = "c.ts" at hd
  have hc : straightBarrels.StarsOnly := ⟨hresolved, by decide⟩
  obtain ⟨hstars, -, hdeclares, -⟩ :=
    star_walk_declares_unless_looping hc (by decide) (remembered_nil _) hn
  have hleaf : straightBarrels.Declares d "f" := hd ▸ ⟨crossedLeaf, rfl, List.mem_cons_self⟩
  exact ⟨hd, hstars, hdeclares.mp hleaf⟩

/-- Of the crossed barrels the second one takes over the first one before the leaf, and the walk goes back to where it
came from although the leaf declares the name. -/
theorem crossed_star_walk_misses_declaration :
    crossedBarrels.StarsOnly ∧ crossedBarrels.size < 32 ∧
      "f" ∈ ((crossedBarrels.rememberedNames "a.ts").run []).1 ∧ crossedBarrels.Declares "c.ts" "f" ∧
      ¬crossedBarrels.Declares
        ((crossedBarrels.declaringModule crossedBarrels.rememberedNames "a.ts" "f").run []).1 "f" := by
  obtain ⟨hresolved, hn, hd⟩ := readings_of_barrels.2
  refine ⟨⟨hresolved, by decide⟩, by decide, hn, ⟨crossedLeaf, rfl, List.mem_cons_self⟩, ?_⟩
  rw [hd]
  rintro ⟨m, hm, hn⟩
  obtain rfl : crossedOuter = m := Option.some.inj hm
  simp [crossedOuter] at hn

end Corpus

end CorpusShape
