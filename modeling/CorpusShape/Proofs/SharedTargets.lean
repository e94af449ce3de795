import CorpusShape.Proofs.SharedParts

/-!
# Targets in shared parts

The search for the target of a call follows the specifiers of the bindings that the call and the class around it see,
and after that only specifiers of modules it has come to. Where two corpora share a part, and the specifiers that a
call sees lead both of them to the same place of the part, the whole search takes the same way in both and does not
leave the part.
-/
namespace CorpusShape

namespace Binding

def specifier? : Binding → Option String
  | declared => none
  | imported specifier _ => some (specifier.getD "")

end Binding

namespace Scope

def specifiers (s : Scope) : List String := s.flatMap fun f => f.filterMap fun e => e.2.specifier?

theorem specifier_mem_of_lookup {s : Scope} {name : String} {specifier imported : Option String}
    (h : s.lookup name = some (.imported specifier imported)) : specifier.getD "" ∈ s.specifiers := by
  induction s with
  | nil => cases h
  | cons f rest ih =>
    rw [specifiers, List.flatMap_cons]
    cases hf : f.get? name with
    | some b =>
      obtain rfl : b = .imported specifier imported := by simpa [lookup, hf] using h
      exact List.mem_append_left _ (List.mem_filterMap.mpr ⟨_, Table.mem_of_get? hf, rfl⟩)
    | none =>
      have hrest : lookup rest name = some (.imported specifier imported) := by simpa [lookup, hf] using h
      exact List.mem_append_right _ (ih hrest)

end Scope

namespace CallSite

/-- The specifiers of the bindings that a call sees, and of those that the class around it sees. -/
def specifiers (call : CallSite) : List String :=
  (call.scope.toList ++ (call.owner.bind (·.scope)).toList).flatMap Scope.specifiers

theorem specifier_mem_of_scope {call : CallSite} {scope : Scope} (hscope : call.scope = some scope) {s : String}
    (hs : s ∈ scope.specifiers) : s ∈ call.specifiers :=
  List.mem_flatMap.mpr ⟨scope, List.mem_append_left _ (Option.mem_toList.mpr hscope), hs⟩

theorem specifier_mem_of_owner {call : CallSite} {owner : ClassShape} (howner : call.owner = some owner) {scope : Scope}
    (hscope : owner.scope = some scope) {s : String} (hs : s ∈ scope.specifiers) : s ∈ call.specifiers := by
  refine List.mem_flatMap.mpr ⟨scope, List.mem_append_right _ (Option.mem_toList.mpr ?_), hs⟩
  rw [howner, Option.bind_some, hscope]

end CallSite

/-- Both computations give the same value, and it has the property. -/
def GiveAlike {α : Type} (x y : Id α) (Q : α → Prop) : Prop := x.run = y.run ∧ Q x.run

theorem giveAlike_pure {α : Type} {Q : α → Prop} {a : α} (h : Q a) : GiveAlike (pure a) (pure a) Q := ⟨rfl, h⟩

theorem GiveAlike.bind {α β : Type} {x y : Id α} {k l : α → Id β} {Q : α → Prop} {R : β → Prop}
    (hxy : GiveAlike x y Q) (hkl : ∀ a, Q a → GiveAlike (k a) (l a) R) : GiveAlike (x >>= k) (y >>= l) R := by
  obtain ⟨hvalue, hx⟩ := hxy
  obtain rfl : x = y := hvalue
  exact hkl _ hx

namespace CallTarget

/-- A target that lies in a module lies in one of the part. -/
def LiesIn (P : String → Prop) (t : CallTarget) : Prop := ∀ path, t.path = some path → P path

theorem liesIn_inModule {P : String → Prop} {path : String} (h : P path) : LiesIn P (.inModule path) := by
  rintro found hfound
  obtain rfl : path = found := Option.some.inj hfound
  exact h

theorem liesIn_external {P : String → Prop} : LiesIn P .external := fun _ h => nomatch h

theorem liesIn_unresolved {P : String → Prop} : LiesIn P .unresolved := fun _ h => nomatch h

def AnyLiesIn (P : String → Prop) (t : Option CallTarget) : Prop := ∀ u ∈ t, LiesIn P u

theorem anyLiesIn_none {P : String → Prop} : AnyLiesIn P none := fun _ h => nomatch h

theorem anyLiesIn_some {P : String → Prop} {t : CallTarget} (h : LiesIn P t) : AnyLiesIn P (some t) := by
  intro u hu
  rw [← Option.some.inj hu]
  exact h

theorem anyLiesIn_ite_external {P : String → Prop} {p : Prop} [Decidable p] :
    AnyLiesIn P (if p then some .external else none) := by
  split
  · exact anyLiesIn_some liesIn_external
  · exact anyLiesIn_none

end CallTarget

namespace Corpus
open CallTarget
variable {c d : Corpus} {P : String → Prop}

/-- A specifier leads both corpora to the same module, and into the part. -/
structure Follows (c d : Corpus) (P : String → Prop) (origin specifier : String) : Prop where
  resolve?_eq : c.resolve? origin specifier = d.resolve? origin specifier
  closed : ∀ t, c.resolve? origin specifier = some t → P t

namespace SharedPart
variable {names names' : String → List String} (h : c.SharedPart d P) (hnames : ∀ q, P q → names q = names' q)
include h hnames

theorem reexportStep_alike {path : String} (hp : P path) (name : String) :
    GiveAlike (c.reexportStep (m := Id) names path name) (d.reexportStep (m := Id) names' path name)
      fun step => ∀ s ∈ step, P s.1 :=
  ⟨h.stepWith_eq hnames hp name, fun _ hs => h.closed_stepWith hp hs⟩

theorem declaringFrom_alike (steps : Nat) (visited : List (String × String)) {path : String} (hp : P path)
    (name : String) :
    GiveAlike (c.declaringFrom (m := Id) names steps visited path name)
      (d.declaringFrom (m := Id) names' steps visited path name) P := by
  induction steps generalizing visited path name with
  | zero => exact giveAlike_pure hp
  | succ steps ih =>
    unfold declaringFrom
    split
    · exact giveAlike_pure hp
    · refine (h.reexportStep_alike hnames hp name).bind fun step hstep => ?_
      cases step with
      | none => exact giveAlike_pure hp
      | some s => exact ih _ (hstep s rfl) _

theorem importTarget_alike {origin : String} {specifier : Option String} (imported : Option String)
    (hs : c.Follows d P origin (specifier.getD "")) :
    GiveAlike (c.importTarget (m := Id) names origin specifier imported)
      (d.importTarget (m := Id) names' origin specifier imported) (LiesIn P) := by
  unfold importTarget
  dsimp only
  rw [← hs.resolve?_eq]
  split
  · exact giveAlike_pure liesIn_external
  · cases htarget : c.resolve? origin (specifier.getD "") with
    | none => exact giveAlike_pure liesIn_unresolved
    | some target =>
      have htarget := hs.closed target htarget
      dsimp only
      split
      · exact giveAlike_pure (liesIn_inModule htarget)
      · exact (h.declaringFrom_alike hnames _ _ htarget _).bind fun _ hpath =>
          giveAlike_pure (liesIn_inModule hpath)

theorem namespaceTarget_alike {origin : String} {specifier : Option String} (member : String)
    (hs : c.Follows d P origin (specifier.getD "")) :
    GiveAlike (c.namespaceTarget (m := Id) names origin specifier member)
      (d.namespaceTarget (m := Id) names' origin specifier member) (LiesIn P) := by
  unfold namespaceTarget
  refine (h.importTarget_alike hnames (some "*") hs).bind fun whole hwhole => ?_
  split
  · rename_i path _ hpath
    split
    · exact giveAlike_pure hwhole
    · exact (h.declaringFrom_alike hnames _ _ (hwhole path hpath) member).bind fun _ hfound =>
        giveAlike_pure (liesIn_inModule hfound)
  · exact giveAlike_pure hwhole

section
variable {module_ : Module} (hm : P module_.path)
include hm

theorem nameTarget?_alike {scope : Option Scope} (name : Option String)
    (hs : ∀ sc, scope = some sc → ∀ s ∈ sc.specifiers, c.Follows d P module_.path s) :
    GiveAlike (c.nameTarget? (m := Id) names module_ scope name)
      (d.nameTarget? (m := Id) names' module_ scope name) (AnyLiesIn P) := by
  unfold nameTarget?
  split
  · rename_i sc _
    split
    · exact giveAlike_pure anyLiesIn_ite_external
    · exact giveAlike_pure (anyLiesIn_some (liesIn_inModule hm))
    · rename_i hlookup
      have hfollows := hs sc rfl _ (Scope.specifier_mem_of_lookup hlookup)
      exact (h.importTarget_alike hnames _ hfollows).bind fun _ ht => giveAlike_pure (anyLiesIn_some ht)
  · exact giveAlike_pure anyLiesIn_none

section Calls
variable {call : CallSite} (hcall : ∀ s ∈ call.specifiers, c.Follows d P module_.path s)
include hcall

theorem baseTarget?_alike :
    GiveAlike (c.baseTarget? (m := Id) names module_ call.owner)
      (d.baseTarget? (m := Id) names' module_ call.owner) (AnyLiesIn P) := by
  unfold baseTarget?
  cases howner : call.owner with
  | none => exact giveAlike_pure anyLiesIn_none
  | some owner =>
    dsimp only
    split
    · exact giveAlike_pure anyLiesIn_none
    · exact h.nameTarget?_alike hnames hm _ fun _ hscope _ hs =>
        hcall _ (CallSite.specifier_mem_of_owner howner hscope hs)

theorem receiverTarget?_alike (member : String) :
    GiveAlike (c.receiverTarget? (m := Id) names module_ call member)
      (d.receiverTarget? (m := Id) names' module_ call member) (AnyLiesIn P) := by
  unfold receiverTarget?
  split
  · split
    · exact giveAlike_pure anyLiesIn_none
    · split
      · exact giveAlike_pure (anyLiesIn_some (liesIn_inModule hm))
      · exact h.baseTarget?_alike hnames hm hcall
  · exact h.baseTarget?_alike hnames hm hcall
  · split
    · rename_i scope _ hscope
      split
      · exact giveAlike_pure anyLiesIn_ite_external
      · split
        · exact giveAlike_pure (anyLiesIn_some (liesIn_inModule hm))
        · exact giveAlike_pure anyLiesIn_none
      · rename_i hlookup
        have hfollows := hcall _ (CallSite.specifier_mem_of_scope hscope (Scope.specifier_mem_of_lookup hlookup))
        split
        · exact (h.namespaceTarget_alike hnames member hfollows).bind fun _ ht => giveAlike_pure (anyLiesIn_some ht)
        · refine (h.importTarget_alike hnames _ hfollows).bind fun t ht => ?_
          split
          · exact giveAlike_pure (anyLiesIn_some ht)
          · -- The module in which the receiver is declared lies in the part, so it is the same in both.
            have hsame : t.path.bind c.get? = t.path.bind d.get? := by
              cases hpath : t.path with
              | none => rfl
              | some path => exact h.get?_eq path (ht path hpath)
            rw [hsame]
            dsimp only
            split
            · exact giveAlike_pure (anyLiesIn_some ht)
            · exact giveAlike_pure anyLiesIn_none
    · exact giveAlike_pure anyLiesIn_none

theorem memberTarget?_alike (member : String) :
    GiveAlike (c.memberTarget? (m := Id) names module_ call member)
      (d.memberTarget? (m := Id) names' module_ call member) (AnyLiesIn P) := by
  unfold memberTarget?
  dsimp only
  split
  · refine (h.receiverTarget?_alike hnames hm hcall member).bind fun t ht => ?_
    split
    · exact giveAlike_pure ht
    · exact giveAlike_pure anyLiesIn_ite_external
  · split
    · exact giveAlike_pure (anyLiesIn_some liesIn_external)
    · exact giveAlike_pure anyLiesIn_ite_external

/-- A call of a module of the part has the same target in both corpora, and a target in a module lies in the part. -/
theorem targetWith_alike :
    c.targetWith names module_ call = d.targetWith names' module_ call ∧
      LiesIn P (c.targetWith names module_ call) := by
  have hget : ∀ t : Option CallTarget, AnyLiesIn P t → LiesIn P (t.getD .unresolved) := by
    intro t ht
    cases t with
    | none => exact liesIn_unresolved
    | some u => exact ht u rfl
  have hgive : GiveAlike (c.callTarget (m := Id) names module_ call) (d.callTarget (m := Id) names' module_ call)
      (LiesIn P) := by
    unfold callTarget
    split
    · refine (h.nameTarget?_alike hnames hm _ fun _ hscope _ hs => ?_).bind fun t ht => giveAlike_pure (hget t ht)
      exact hcall _ (CallSite.specifier_mem_of_scope hscope hs)
    · exact (h.baseTarget?_alike hnames hm hcall).bind fun t ht => giveAlike_pure (hget t ht)
    · exact (h.memberTarget?_alike hnames hm hcall _).bind fun t ht => giveAlike_pure (hget t ht)
    · exact giveAlike_pure liesIn_unresolved
  exact hgive

end Calls

end

end SharedPart

end Corpus

end CorpusShape
