import CorpusShape.CallGraph

/-!
# The memory of export sets

A memory answers for the paths it has, and the corpus for all others. Asking only ever adds the corpus's own
answer, so that what a memory answers never changes while it fills. A computation that asks therefore agrees
with the one that is given the answers as a plain function, whatever was asked before it. This is shown once
for each step of the search for the target of a call; nothing later looks at a memory again.
-/
namespace CorpusShape

namespace Corpus
variable {c : Corpus} {names : String → List String}

def namesWith (c : Corpus) (memory : ExportMemory) (path : String) : List String :=
  (memory.get? path).getD (c.exportedNames path)

theorem namesWith_nil (c : Corpus) : c.namesWith [] = c.exportedNames := rfl

/-- Every answer that the memory keeps is the one that the corpus gives. -/
def Remembered (c : Corpus) (memory : ExportMemory) : Prop :=
  ∀ path names, memory.get? path = some names → names = c.exportedNames path

theorem remembered_nil (c : Corpus) : c.Remembered [] := by
  intro path names h
  simp at h

theorem Remembered.namesWith_eq {memory : ExportMemory} (h : c.Remembered memory) :
    c.namesWith memory = c.exportedNames := by
  funext path
  cases hg : memory.get? path with
  | none => simp [namesWith, hg]
  | some names => simp [namesWith, hg, ← h path names hg]

/-- With every memory that answers by `names` the computation gives the value of `a`, and the memory it leaves
still answers by `names`. -/
def Agrees (c : Corpus) (names : String → List String) {α : Type} (x : Remembering α) (a : Id α) : Prop :=
  ∀ memory, c.namesWith memory = names →
    (x.run memory).1 = a.run ∧ c.namesWith (x.run memory).2 = names

theorem agrees_pure {α : Type} (a : α) : c.Agrees names (pure a) (pure a) :=
  fun _ h => ⟨rfl, h⟩

theorem Agrees.andThen {α β : Type} {x : Remembering α} {a : Id α} {k : α → Remembering β} {b : Id β}
    (hx : c.Agrees names x a) (hk : c.Agrees names (k a.run) b) : c.Agrees names (x >>= k) b := by
  intro memory h
  obtain ⟨hvalue, hmemory⟩ := hx memory h
  have hrun : (x >>= k).run memory = (k (x.run memory).1).run (x.run memory).2 := rfl
  rw [hrun, hvalue]
  exact hk _ hmemory

theorem Agrees.bind {α β : Type} {x : Remembering α} {a : Id α} {k : α → Remembering β} {b : α → Id β}
    (hx : c.Agrees names x a) (hk : c.Agrees names (k a.run) (b a.run)) :
    c.Agrees names (x >>= k) (a >>= b) := hx.andThen hk

theorem run_rememberedNames_of_some {memory : ExportMemory} {path : String} {found : List String}
    (h : memory.get? path = some found) : (c.rememberedNames path).run memory = (found, memory) := by
  simp only [rememberedNames, StateT.run_bind, StateT.run_get, pure_bind, h]
  rfl

theorem run_rememberedNames_of_none {memory : ExportMemory} {path : String} (h : memory.get? path = none) :
    (c.rememberedNames path).run memory = (c.exportedNames path, memory.put path (c.exportedNames path)) := by
  simp only [rememberedNames, StateT.run_bind, StateT.run_get, pure_bind, h]
  rfl

theorem agrees_rememberedNames (path : String) : c.Agrees names (c.rememberedNames path) (names path) := by
  rintro memory rfl
  cases hg : memory.get? path with
  | some found =>
    rw [run_rememberedNames_of_some hg]
    refine ⟨?_, rfl⟩
    simp only [namesWith, hg]
    rfl
  | none =>
    rw [run_rememberedNames_of_none hg]
    refine ⟨?_, ?_⟩
    · simp only [namesWith, hg]
      rfl
    · -- the new entry is what the corpus would have answered anyway
      funext other
      by_cases ho : path = other
      · subst ho
        simp [namesWith, hg]
      · simp [namesWith, Table.get?_put_of_ne _ _ ho]

/-- A relation between the computations of two monads that holds of plain values and of one computation after the
other. -/
structure Alongside (m₁ m₂ : Type → Type) [Monad m₁] [Monad m₂] where
  rel : {α : Type} → m₁ α → m₂ α → Prop
  pure_rel {α : Type} (a : α) : rel (pure a) (pure a)
  bind_rel {α β : Type} {x : m₁ α} {y : m₂ α} {k : α → m₁ β} {j : α → m₂ β} :
    rel x y → (∀ a, rel (k a) (j a)) → rel (x >>= k) (y >>= j)

namespace Alongside
variable {m₁ m₂ : Type → Type} [Monad m₁] [Monad m₂] {f : String → m₁ (List String)} {g : String → m₂ (List String)}

theorem firstStar (R : Alongside m₁ m₂) (h : ∀ path, R.rel (f path) (g path)) (name : String) (targets : List String) :
    R.rel (reexportStep.firstStar f name targets) (reexportStep.firstStar g name targets) := by
  induction targets with
  | nil => exact R.pure_rel _
  | cons target rest ih =>
    refine R.bind_rel (h target) fun found => ?_
    split
    · exact R.pure_rel _
    · exact ih

theorem reexportStep (R : Alongside m₁ m₂) (h : ∀ path, R.rel (f path) (g path)) (c : Corpus) (path name : String) :
    R.rel (c.reexportStep f path name) (c.reexportStep g path name) := by
  unfold Corpus.reexportStep
  cases c.get? path with
  | none => exact R.pure_rel _
  | some module_ =>
    dsimp only
    cases module_.exports.get? name with
    | some inner =>
      dsimp only
      split
      · split
        · exact R.pure_rel _
        · exact R.pure_rel _
      · exact R.pure_rel _
    | none =>
      dsimp only
      split
      · exact R.pure_rel _
      · split
        · exact R.pure_rel _
        · exact R.firstStar h _ _

theorem declaringFrom (R : Alongside m₁ m₂) (h : ∀ path, R.rel (f path) (g path)) (c : Corpus) (steps : Nat)
    (visited : List (String × String)) (path name : String) :
    R.rel (c.declaringFrom f steps visited path name) (c.declaringFrom g steps visited path name) := by
  induction steps generalizing visited path name with
  | zero => exact R.pure_rel _
  | succ steps ih =>
    unfold Corpus.declaringFrom
    split
    · exact R.pure_rel _
    · refine R.bind_rel (R.reexportStep h c path name) fun step => ?_
      split
      · exact R.pure_rel _
      · exact ih _ _ _

end Alongside

def agreeing (c : Corpus) (names : String → List String) : Alongside Remembering Id where
  rel := c.Agrees names
  pure_rel := agrees_pure
  bind_rel hx hk := hx.bind (hk _)

theorem agrees_reexportStep (path name : String) :
    c.Agrees names (c.reexportStep c.rememberedNames path name)
      (c.reexportStep (m := Id) names path name) :=
  (c.agreeing names).reexportStep agrees_rememberedNames c path name

theorem agrees_declaringModule (path name : String) :
    c.Agrees names (c.declaringModule c.rememberedNames path name)
      (c.declaringModule (m := Id) names path name) :=
  (c.agreeing names).declaringFrom agrees_rememberedNames c _ _ _ _

theorem agrees_importTarget (origin : String) (specifier imported : Option String) :
    c.Agrees names (c.importTarget c.rememberedNames origin specifier imported)
      (c.importTarget (m := Id) names origin specifier imported) := by
  unfold importTarget
  dsimp only
  split
  · exact agrees_pure _
  · cases c.resolve? origin (specifier.getD "") with
    | none => exact agrees_pure _
    | some target =>
      dsimp only
      split
      · exact agrees_pure _
      · exact (agrees_declaringModule _ _).bind (agrees_pure _)

theorem agrees_nameTarget? (module_ : Module) (scope : Option Scope) (name : Option String) :
    c.Agrees names (c.nameTarget? c.rememberedNames module_ scope name)
      (c.nameTarget? (m := Id) names module_ scope name) := by
  unfold nameTarget?
  split
  · split
    · exact agrees_pure _
    · exact agrees_pure _
    · exact (agrees_importTarget _ _ _).bind (agrees_pure _)
  · exact agrees_pure _

theorem agrees_baseTarget? (module_ : Module) (owner : Option ClassShape) :
    c.Agrees names (c.baseTarget? c.rememberedNames module_ owner)
      (c.baseTarget? (m := Id) names module_ owner) := by
  unfold baseTarget?
  cases owner with
  | none => exact agrees_pure _
  | some o =>
    dsimp only
    split
    · exact agrees_pure _
    · exact agrees_nameTarget? _ _ _

theorem agrees_namespaceTarget (origin : String) (specifier : Option String) (member : String) :
    c.Agrees names (c.namespaceTarget c.rememberedNames origin specifier member)
      (c.namespaceTarget (m := Id) names origin specifier member) := by
  unfold namespaceTarget
  refine (agrees_importTarget _ _ _).bind ?_
  split
  · split
    · exact agrees_pure _
    · exact (agrees_declaringModule _ _).bind (agrees_pure _)
  · exact agrees_pure _

theorem agrees_receiverTarget? (module_ : Module) (call : CallSite) (member : String) :
    c.Agrees names (c.receiverTarget? c.rememberedNames module_ call member)
      (c.receiverTarget? (m := Id) names module_ call member) := by
  unfold receiverTarget?
  split
  · split
    · exact agrees_pure _
    · split
      · exact agrees_pure _
      · exact agrees_baseTarget? _ _
  · exact agrees_baseTarget? _ _
  · split
    · split
      · exact agrees_pure _
      · exact agrees_pure _
      · split
        · exact (agrees_namespaceTarget _ _ _).bind (agrees_pure _)
        · refine (agrees_importTarget _ _ _).bind ?_
          split
          · exact agrees_pure _
          · exact agrees_pure _
    · exact agrees_pure _

theorem agrees_memberTarget? (module_ : Module) (call : CallSite) (member : String) :
    c.Agrees names (c.memberTarget? c.rememberedNames module_ call member)
      (c.memberTarget? (m := Id) names module_ call member) := by
  unfold memberTarget?
  dsimp only
  split
  · refine (agrees_receiverTarget? _ _ _).bind ?_
    split
    · exact agrees_pure _
    · exact agrees_pure _
  · split
    · exact agrees_pure _
    · exact agrees_pure _

def targetWith (c : Corpus) (names : String → List String) (module_ : Module) (call : CallSite) : CallTarget :=
  (c.callTarget (m := Id) names module_ call).run

theorem agrees_callTarget (module_ : Module) (call : CallSite) :
    c.Agrees names (scopeResolver c module_ call) (c.callTarget (m := Id) names module_ call) := by
  unfold scopeResolver callTarget
  split
  · exact (agrees_nameTarget? _ _ _).bind (agrees_pure _)
  · exact (agrees_baseTarget? _ _).bind (agrees_pure _)
  · exact (agrees_memberTarget? _ _ _).bind (agrees_pure _)
  · exact (agrees_pure _).bind (agrees_pure _)

/-- The resolver gives every call one target, whatever has been asked before it. -/
theorem run_scopeResolver (c : Corpus) (memory : ExportMemory) (module_ : Module) (call : CallSite) :
    ((scopeResolver c module_ call).run memory).1 = c.targetWith (c.namesWith memory) module_ call :=
  (agrees_callTarget module_ call memory rfl).1

end Corpus

end CorpusShape
