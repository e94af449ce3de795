import CorpusShape.Proofs.ExportMemory
import CorpusShape.Proofs.Tables

/-!
# Targets lie in the corpus

A specifier only names modules of the corpus, so that every step along re-exports stays inside it, however the
re-exports are laid out. Whatever form a call has, its target is then a module of the corpus, or none at all.
The answers for the export sets are an arbitrary function here.
-/
namespace CorpusShape

def Gives {α : Type} (x : Id α) (P : α → Prop) : Prop := P x.run

theorem gives_pure {α : Type} {P : α → Prop} {a : α} (h : P a) : Gives (pure a) P := h

theorem Gives.bind {α β : Type} {x : Id α} {k : α → Id β} {Q : α → Prop} {P : β → Prop}
    (hx : Gives x Q) (hk : ∀ a, Q a → Gives (k a) P) : Gives (x >>= k) P := hk _ hx

namespace Corpus
variable {c : Corpus}

theorem resolve?_mem {origin specifier target : String} (h : c.resolve? origin specifier = some target) :
    target ∈ c.paths := by
  unfold resolve? at h
  split at h
  · exact absurd h (by simp)
  · have hfound := List.find?_some h
    exact (Table.contains_iff_mem_keys _ _).mp hfound

def Holds (c : Corpus) (t : CallTarget) : Prop :=
  t.kind = .module_ → ∃ path ∈ c.paths, t = .inModule path

theorem holds_inModule {path : String} (h : path ∈ c.paths) : c.Holds (.inModule path) :=
  fun _ => ⟨path, h, rfl⟩

theorem holds_external : c.Holds .external := fun h => nomatch h

theorem holds_unresolved : c.Holds .unresolved := fun h => nomatch h

def HoldsAny (c : Corpus) (t : Option CallTarget) : Prop := ∀ u ∈ t, c.Holds u

theorem holdsAny_none : c.HoldsAny none := fun _ h => nomatch h

theorem holdsAny_some {t : CallTarget} (h : c.Holds t) : c.HoldsAny (some t) := by
  intro u hu
  rw [← Option.some.inj hu]
  exact h

theorem holdsAny_ite_external {p : Prop} [Decidable p] :
    c.HoldsAny (if p then some .external else none) := by
  split
  · exact holdsAny_some holds_external
  · exact holdsAny_none

variable (names : String → List String)

theorem firstStar_mem (name : String) (targets : List String) :
    Gives (reexportStep.firstStar (m := Id) names name targets) fun step => ∀ s ∈ step, s.1 ∈ targets := by
  induction targets with
  | nil => exact gives_pure (by simp)
  | cons target rest ih =>
    refine Gives.bind (Q := fun _ => True) trivial fun ns _ => ?_
    split
    · exact gives_pure (by simp)
    · intro s hs
      exact List.mem_cons_of_mem _ (ih s hs)

/-- A step along re-exports ends in the corpus. -/
theorem reexportStep_mem (path name : String) :
    Gives (c.reexportStep (m := Id) names path name) fun step => ∀ s ∈ step, s.1 ∈ c.paths := by
  have hmap : ∀ (specifier source : String), ∀ s ∈ (c.resolve? path specifier).map (·, source),
      s.1 ∈ c.paths := by
    intro specifier source s hs
    obtain ⟨target, htarget, rfl⟩ := Option.map_eq_some_iff.mp hs
    exact resolve?_mem htarget
  unfold reexportStep
  cases c.get? path with
  | none => exact gives_pure (by simp)
  | some module_ =>
    dsimp only
    cases module_.exports.get? name with
    | some inner =>
      dsimp only
      split
      · split
        · exact gives_pure (by simp)
        · exact gives_pure (hmap _ _)
      · exact gives_pure (by simp)
    | none =>
      dsimp only
      split
      · exact gives_pure (hmap _ _)
      · split
        · exact gives_pure (by simp)
        · intro s hs
          obtain ⟨r, _, hr⟩ := List.mem_filterMap.mp (firstStar_mem names name _ s hs)
          exact resolve?_mem hr

theorem declaringFrom_mem (steps : Nat) (visited : List (String × String)) {path : String} (name : String)
    (hp : path ∈ c.paths) :
    Gives (c.declaringFrom (m := Id) names steps visited path name) (· ∈ c.paths) := by
  induction steps generalizing visited path name with
  | zero => exact gives_pure hp
  | succ steps ih =>
    unfold declaringFrom
    split
    · exact gives_pure hp
    · refine (reexportStep_mem names path name).bind fun step hstep => ?_
      split
      · exact gives_pure hp
      · exact ih _ _ (hstep _ rfl)

theorem importTarget_holds (origin : String) (specifier imported : Option String) :
    Gives (c.importTarget (m := Id) names origin specifier imported) c.Holds := by
  unfold importTarget
  dsimp only
  split
  · exact gives_pure holds_external
  · cases htarget : c.resolve? origin (specifier.getD "") with
    | none => exact gives_pure holds_unresolved
    | some target =>
      dsimp only
      split
      · exact gives_pure (holds_inModule (resolve?_mem htarget))
      · exact (declaringFrom_mem names _ _ _ (resolve?_mem htarget)).bind fun _ hpath =>
          gives_pure (holds_inModule hpath)

theorem namespaceTarget_holds (origin : String) (specifier : Option String) (member : String) :
    Gives (c.namespaceTarget (m := Id) names origin specifier member) c.Holds := by
  unfold namespaceTarget
  refine (importTarget_holds names origin specifier (some "*")).bind fun whole hwhole => ?_
  split
  · rename_i path hkind hpath
    split
    · exact gives_pure hwhole
    · obtain ⟨found, hfound, rfl⟩ := hwhole hkind
      have hsame : found = path := Option.some.inj hpath
      exact (declaringFrom_mem names _ _ member (hsame ▸ hfound)).bind fun _ h =>
        gives_pure (holds_inModule h)
  · exact gives_pure hwhole

section
variable {module_ : Module} (hm : module_.path ∈ c.paths)
include hm

theorem nameTarget?_holds (scope : Option Scope) (name : Option String) :
    Gives (c.nameTarget? (m := Id) names module_ scope name) c.HoldsAny := by
  unfold nameTarget?
  split
  · split
    · exact gives_pure holdsAny_ite_external
    · exact gives_pure (holdsAny_some (holds_inModule hm))
    · exact (importTarget_holds names _ _ _).bind fun _ h => gives_pure (holdsAny_some h)
  · exact gives_pure holdsAny_none

theorem baseTarget?_holds (owner : Option ClassShape) :
    Gives (c.baseTarget? (m := Id) names module_ owner) c.HoldsAny := by
  unfold baseTarget?
  cases owner with
  | none => exact gives_pure holdsAny_none
  | some o =>
    dsimp only
    split
    · exact gives_pure holdsAny_none
    · exact nameTarget?_holds names hm _ _

theorem receiverTarget?_holds (call : CallSite) (member : String) :
    Gives (c.receiverTarget? (m := Id) names module_ call member) c.HoldsAny := by
  unfold receiverTarget?
  split
  · split
    · exact gives_pure holdsAny_none
    · split
      · exact gives_pure (holdsAny_some (holds_inModule hm))
      · exact baseTarget?_holds names hm _
  · exact baseTarget?_holds names hm _
  · split
    · split
      · exact gives_pure holdsAny_ite_external
      · split
        · exact gives_pure (holdsAny_some (holds_inModule hm))
        · exact gives_pure holdsAny_none
      · split
        · exact (namespaceTarget_holds names _ _ _).bind fun _ h => gives_pure (holdsAny_some h)
        · refine (importTarget_holds names _ _ _).bind fun t ht => ?_
          split
          · exact gives_pure (holdsAny_some ht)
          · dsimp only
            split
            · exact gives_pure (holdsAny_some ht)
            · exact gives_pure holdsAny_none
    · exact gives_pure holdsAny_none

theorem memberTarget?_holds (call : CallSite) (member : String) :
    Gives (c.memberTarget? (m := Id) names module_ call member) c.HoldsAny := by
  unfold memberTarget?
  dsimp only
  split
  · refine (receiverTarget?_holds names hm call member).bind fun t ht => ?_
    split
    · exact gives_pure ht
    · exact gives_pure holdsAny_ite_external
  · split
    · exact gives_pure (holdsAny_some holds_external)
    · exact gives_pure holdsAny_ite_external

/-- Whatever form a call of a module of the corpus has, its target does not lie in a module outside the
corpus. -/
theorem targetWith_holds (call : CallSite) : c.Holds (c.targetWith names module_ call) := by
  have hget : ∀ t : Option CallTarget, c.HoldsAny t → c.Holds (t.getD .unresolved) := by
    intro t ht
    cases t with
    | none => exact holds_unresolved
    | some u => exact ht u rfl
  have hgives : Gives (c.callTarget (m := Id) names module_ call) c.Holds := by
    unfold callTarget
    split
    · exact (nameTarget?_holds names hm _ _).bind fun t ht => gives_pure (hget t ht)
    · exact (baseTarget?_holds names hm _).bind fun t ht => gives_pure (hget t ht)
    · exact (memberTarget?_holds names hm _ _).bind fun t ht => gives_pure (hget t ht)
    · exact gives_pure holds_unresolved
  exact hgives

end

end Corpus

end CorpusShape
