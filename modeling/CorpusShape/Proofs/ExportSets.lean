import CorpusShape.Proofs.ExportMemory
import CorpusShape.Proofs.Tables
import Mathlib.Logic.Relation
import Mathlib.Order.WellFounded

/-!
# Export sets and reachability

A module exports what it provides itself, and everything but the default name of what is provided by the modules
that its star re-exports reach. The search keeps the modules it is in and enters none of them again, so it follows
walks that do not meet themselves. Every walk can be cut down to such a one, and therefore nothing that can be
reached is missed, whatever cycles the re-exports make. Each nested search has fewer modules left to enter.
-/
namespace CorpusShape

namespace Reexport

/-- The three forms in which a re-export is written. -/
inductive Shaped : Reexport → Prop
  | named (specifier : String) (names : Table String) : Shaped { specifier, names := some names }
  | whole (specifier name : String) : name ≠ "" → Shaped { specifier, whole := some name }
  | star (specifier : String) : Shaped { specifier }

/-- The name is one of those that the re-export lists, or that of the whole module. -/
def Lists (r : Reexport) (n : String) : Prop := (∃ names, r.names = some names ∧ n ∈ names.keys) ∨ r.whole = some n

end Reexport

/-- The name is exported by the module itself, or listed in one of its re-exports. -/
def Module.Provides (m : Module) (n : String) : Prop := n ∈ m.exports.keys ∨ ∃ r ∈ m.reexports, r.Lists n

namespace Corpus
variable {c : Corpus}

/-- The names that come through one re-export of the module at `path`. -/
def takenOver (c : Corpus) (visiting : List String) (path : String) (r : Reexport) : List String :=
  match r.whole.filter (!·.isEmpty), r.names with
  | some name, _ => [name]
  | none, some names => names.keys
  | none, none =>
    match c.resolve? path r.specifier with
    | none => []
    | some target => starNames (c.exportsFrom (path :: visiting) target)

theorem exportsFrom_eq (c : Corpus) (visiting : List String) (path : String) :
    c.exportsFrom visiting path =
      match c.get? path with
      | none => []
      | some m =>
        if visiting.contains path then [] else m.exports.keys ++ m.reexports.flatMap (c.takenOver visiting path) := by
  rw [exportsFrom]
  split
  · rename_i h
    simp only [h]
  · rename_i m h
    simp only [h, dite_eq_ite]
    rfl

theorem mem_starNames {exported : List String} {n : String} :
    n ∈ starNames exported ↔ n ≠ "default" ∧ n ∈ exported := by
  simp [starNames, and_comm]

/-- The module at `p` has a star re-export that leads to `q`. -/
def StarEdge (c : Corpus) (p q : String) : Prop :=
  ∃ m, c.get? p = some m ∧ ∃ r ∈ m.reexports, r.isStar ∧ c.resolve? p r.specifier = some q

def ProvidedBy (c : Corpus) (p n : String) : Prop := ∃ m, c.get? p = some m ∧ m.Provides n

def WellShaped (c : Corpus) : Prop := ∀ m ∈ c.toList, ∀ r ∈ m.reexports, r.Shaped

theorem mem_takenOver {visiting : List String} {path : String} {r : Reexport} (hr : r.Shaped) {n : String} :
    n ∈ c.takenOver visiting path r ↔
      r.Lists n ∨ r.isStar ∧ ∃ q, c.resolve? path r.specifier = some q ∧
        n ≠ "default" ∧ n ∈ c.exportsFrom (path :: visiting) q := by
  cases hr with
  | named specifier names => simp [takenOver, Reexport.Lists, Reexport.isStar]
  | whole specifier name hname =>
    have hfilter : (some name).filter (!·.isEmpty) = some name := by simp [hname]
    simp [takenOver, hfilter, Reexport.Lists, Reexport.isStar, eq_comm]
  | star specifier =>
    cases hq : c.resolve? path specifier with
    | none => simp [takenOver, hq, Reexport.Lists]
    | some q => simp [takenOver, hq, Reexport.Lists, Reexport.isStar, mem_starNames]

/-- What the re-exports of a module give to the search. -/
theorem mem_flatMap_takenOver (hc : c.WellShaped) {visiting : List String} {p n : String} {m : Module}
    (hm : c.get? p = some m) :
    n ∈ m.reexports.flatMap (c.takenOver visiting p) ↔
      (∃ r ∈ m.reexports, r.Lists n) ∨
        ∃ q, c.StarEdge p q ∧ n ≠ "default" ∧ n ∈ c.exportsFrom (p :: visiting) q := by
  have hshaped : ∀ r ∈ m.reexports, r.Shaped :=
    hc m (List.mem_map.mpr ⟨(p, m), Table.mem_of_get? hm, rfl⟩)
  rw [List.mem_flatMap]
  constructor
  · rintro ⟨r, hr, hn⟩
    rcases (mem_takenOver (hshaped r hr)).mp hn with hlist | ⟨hstar, q, hq, hne, hn⟩
    · exact Or.inl ⟨r, hr, hlist⟩
    · exact Or.inr ⟨q, ⟨m, hm, r, hr, hstar, hq⟩, hne, hn⟩
  · rintro (⟨r, hr, hlist⟩ | ⟨q, ⟨m', hm', r, hr, hstar, hq⟩, hne, hn⟩)
    · exact ⟨r, hr, (mem_takenOver (hshaped r hr)).mpr (Or.inl hlist)⟩
    · obtain rfl : m = m' := Option.some.inj (hm.symm.trans hm')
      exact ⟨r, hr, (mem_takenOver (hshaped r hr)).mpr (Or.inr ⟨hstar, q, hq, hne, hn⟩)⟩

/-- One level of the search. -/
theorem mem_exportsFrom (hc : c.WellShaped) {visiting : List String} {p n : String} :
    n ∈ c.exportsFrom visiting p ↔
      p ∉ visiting ∧ (c.ProvidedBy p n ∨
        ∃ q, c.StarEdge p q ∧ n ≠ "default" ∧ n ∈ c.exportsFrom (p :: visiting) q) := by
  rw [exportsFrom_eq]
  cases hm : c.get? p with
  | none => simp [ProvidedBy, StarEdge, hm]
  | some m =>
    have hprovided : c.ProvidedBy p n ↔ m.Provides n := by simp [ProvidedBy, hm]
    by_cases hv : p ∈ visiting
    · simp [hv]
    · simp only [List.contains_eq_mem, hv, decide_false, Bool.false_eq_true, if_false, not_false_eq_true,
        true_and, List.mem_append, mem_flatMap_takenOver hc hm, hprovided, Module.Provides, or_assoc]

/-- The search that is running calls the nested one: a search is named by the modules it is in and the module it
enters. -/
inductive Nested (c : Corpus) : List String × String → List String × String → Prop
  | star {visiting : List String} {p q : String} :
    p ∉ visiting → c.StarEdge p q → Nested c (p :: visiting, q) (visiting, p)

/-- Searches cannot be nested without end. -/
theorem wellFounded_nested (c : Corpus) : WellFounded c.Nested := by
  refine Subrelation.wf ?_ (measure fun s => c.unvisited s.1).wf
  rintro _ _ ⟨hv, m, hm, -⟩
  exact c.unvisited_cons_lt (Table.mem_keys_of_get? hm) (by simpa using hv)

/-- A walk along star re-exports that enters no module twice, and none in `visiting`. -/
inductive SimpleWalk (c : Corpus) : List String → String → String → Prop
  | here {visiting : List String} {p : String} : p ∉ visiting → SimpleWalk c visiting p p
  | step {visiting : List String} {p w q : String} :
    p ∉ visiting → c.StarEdge p w → SimpleWalk c (p :: visiting) w q → SimpleWalk c visiting p q

namespace SimpleWalk

theorem mono {visiting fewer : List String} {p q : String} (h : c.SimpleWalk visiting p q)
    (hsub : fewer ⊆ visiting) : c.SimpleWalk fewer p q := by
  induction h generalizing fewer with
  | here hp => exact .here fun hmem => hp (hsub hmem)
  | step hp hedge _ ih =>
    exact .step (fun hmem => hp (hsub hmem)) hedge (ih (List.cons_subset_cons _ hsub))

/-- A walk either never enters `p`, or it goes on from there. -/
theorem avoid_or_from {visiting : List String} {v q : String} (h : c.SimpleWalk visiting v q) (p : String) :
    c.SimpleWalk (p :: visiting) v q ∨ c.SimpleWalk visiting p q := by
  induction h with
  | @here visiting v hv =>
    by_cases hp : v = p
    · exact Or.inr (hp ▸ .here hv)
    · exact Or.inl (.here (by simp [hp, hv]))
  | @step visiting v w q hv hedge hrest ih =>
    by_cases hp : v = p
    · exact Or.inr (hp ▸ .step hv hedge hrest)
    · rcases ih with hleft | hright
      · refine Or.inl (.step (by simp [hp, hv]) hedge (hleft.mono ?_))
        exact List.cons_subset.mpr ⟨by simp, List.cons_subset.mpr ⟨by simp, by simp⟩⟩
      · exact Or.inr (hright.mono (List.subset_cons_self _ _))

/-- An edge in front of a walk gives a walk, where a loop through its start is cut off. -/
theorem cons {visiting : List String} {p w q : String} (hp : p ∉ visiting) (hedge : c.StarEdge p w)
    (h : c.SimpleWalk visiting w q) : c.SimpleWalk visiting p q := by
  rcases h.avoid_or_from p with hrest | hfrom
  · exact .step hp hedge hrest
  · exact hfrom

theorem of_reachable {p q : String} (h : Relation.ReflTransGen c.StarEdge p q) : c.SimpleWalk [] p q := by
  induction h using Relation.ReflTransGen.head_induction_on with
  | refl => exact .here List.not_mem_nil
  | head hedge _ ih => exact .cons List.not_mem_nil hedge ih

/-- What a module on the walk provides is found by the search, unless it is the default name of another. -/
theorem mem_exportsFrom (hc : c.WellShaped) {visiting : List String} {p q n : String}
    (h : c.SimpleWalk visiting p q) (hn : c.ProvidedBy q n) (hne : n ≠ "default") :
    n ∈ c.exportsFrom visiting p := by
  induction h with
  | here hp => exact (Corpus.mem_exportsFrom hc).mpr ⟨hp, Or.inl hn⟩
  | step hp hedge _ ih => exact (Corpus.mem_exportsFrom hc).mpr ⟨hp, Or.inr ⟨_, hedge, hne, ih hn⟩⟩

end SimpleWalk

/-- Everything that the search finds is provided by the module itself, or by one that it reaches. -/
theorem provided_of_mem_exportsFrom (hc : c.WellShaped) {visiting : List String} {p n : String}
    (h : n ∈ c.exportsFrom visiting p) :
    c.ProvidedBy p n ∨ n ≠ "default" ∧ ∃ q, Relation.TransGen c.StarEdge p q ∧ c.ProvidedBy q n := by
  -- The induction follows the nesting of the searches.
  suffices hall : ∀ s : List String × String, n ∈ c.exportsFrom s.1 s.2 →
      c.ProvidedBy s.2 n ∨ n ≠ "default" ∧ ∃ q, Relation.TransGen c.StarEdge s.2 q ∧ c.ProvidedBy q n from
    hall (visiting, p) h
  intro s
  induction s using c.wellFounded_nested.induction with
  | h s ih =>
    intro hs
    obtain ⟨hv, hown | ⟨q, hedge, hne, hq⟩⟩ := (mem_exportsFrom hc).mp hs
    · exact Or.inl hown
    · refine Or.inr ⟨hne, ?_⟩
      rcases ih (s.2 :: s.1, q) (.star hv hedge) hq with hprovided | ⟨-, t, hwalk, hprovided⟩
      · exact ⟨q, .single hedge, hprovided⟩
      · exact ⟨t, .head hedge hwalk, hprovided⟩

/-- The names that are answered for a module on an empty memory are those it provides, and all but the default
ones of those that are provided by the modules its star re-exports reach; the search for them comes to an end. -/
theorem exported_names_reachable (hc : c.WellShaped) (p : String) :
    WellFounded c.Nested ∧
      ((c.rememberedNames p).run []).1.Nodup ∧
      ∀ n, n ∈ ((c.rememberedNames p).run []).1 ↔
        c.ProvidedBy p n ∨ n ≠ "default" ∧ ∃ q, Relation.TransGen c.StarEdge p q ∧ c.ProvidedBy q n := by
  have hrun : ((c.rememberedNames p).run []).1 = sortedNames (c.exportsFrom [] p) :=
    (agrees_rememberedNames p [] rfl).1
  rw [hrun]
  refine ⟨c.wellFounded_nested, nodup_sortedNames _, fun n => ?_⟩
  rw [mem_sortedNames]
  constructor
  · exact provided_of_mem_exportsFrom hc
  · rintro (hown | ⟨hne, q, hwalk, hprovided⟩)
    · exact (mem_exportsFrom hc).mpr ⟨List.not_mem_nil, Or.inl hown⟩
    · exact (SimpleWalk.of_reachable hwalk.to_reflTransGen).mem_exportsFrom hc hprovided hne

/-- A module that takes over all of another one, also under a name, and all of itself. -/
def ringOuter : Module :=
  { path := "a.ts"
    exports := [("outer", none)]
    reexports := [{ specifier := "./b" }, { specifier := "./a" }, { specifier := "./b", whole := some "b" }] }

/-- The module that is taken over, which takes over all of the first one in turn. -/
def ringInner : Module :=
  { path := "b.ts"
    exports := [("default", none)]
    reexports := [{ specifier := "./a" }, { specifier := "./c", names := some [("inner", "x")] }] }

def ring : Corpus := ofModules [ringOuter, ringInner]

theorem exported_names_reachable_ring :
    "inner" ∈ ((ring.rememberedNames "a.ts").run []).1 ∧ "default" ∉ ((ring.rememberedNames "a.ts").run []).1 := by
  have houter : ∀ r ∈ ringOuter.reexports, r.Shaped := by
    simp only [ringOuter, List.forall_mem_cons]
    exact ⟨.star _, .star _, .whole _ _ (by decide), by simp⟩
  have hinner : ∀ r ∈ ringInner.reexports, r.Shaped := by
    simp only [ringInner, List.forall_mem_cons]
    exact ⟨.star _, .named _ _, by simp⟩
  have hlist : ring.toList = [ringOuter, ringInner] := rfl
  have hc : ring.WellShaped := by
    simp only [WellShaped, hlist, List.forall_mem_cons]
    exact ⟨houter, hinner, by simp⟩
  obtain ⟨-, -, hnames⟩ := exported_names_reachable hc "a.ts"
  have hedge : ring.StarEdge "a.ts" "b.ts" :=
    ⟨ringOuter, rfl, { specifier := "./b" }, List.mem_cons_self, rfl, by decide +kernel⟩
  refine ⟨(hnames "inner").mpr (Or.inr ⟨by decide, "b.ts", .single hedge, ?_⟩), fun h => ?_⟩
  · exact ⟨ringInner, rfl, Or.inr ⟨_, List.mem_cons_of_mem _ List.mem_cons_self, Or.inl ⟨_, rfl, List.mem_cons_self⟩⟩⟩
  · rcases (hnames "default").mp h with ⟨m, hm, hprovides⟩ | ⟨hne, -⟩
    · obtain rfl := Option.some.inj hm
      simp [ringOuter, Module.Provides, Reexport.Lists] at hprovides
    · exact hne rfl

end Corpus

end CorpusShape
