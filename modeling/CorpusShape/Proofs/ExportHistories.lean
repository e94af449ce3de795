import CorpusShape.Proofs.ExportMemory

/-!
# Export sets over the life of a corpus

A corpus lives through events: modules come and go, and questions are asked, some of which fill the memory of export
sets. One event asks for the export sets of some paths, and after it the memory holds, for each of these paths, the set
that was answered; nothing else in the memory changes. So the answer for a path is for good the export set at the time
when the path was first asked for, in the corpus as it then was. If no module comes or goes once a question was asked,
every answer is what the corpus itself gives.
-/
namespace CorpusShape

namespace LiveCorpus

inductive Event where
  | add (m : Module)
  | remove (path : String)
  | exported (path : String)
  | specifier (origin text : String)
  | declaring (path name : String)

namespace Event

/-- Events by which a module comes or goes. -/
def isChange : Event → Bool
  | add _ | remove _ => true
  | exported _ | specifier _ _ | declaring _ _ => false

def isQuestion : Event → Bool
  | exported _ | declaring _ _ => true
  | add _ | remove _ | specifier _ _ => false

end Event

def exportedAnswer (l : LiveCorpus) (path : String) : List String := (l.ask fun c => c.rememberedNames path).1

def declaringAnswer (l : LiveCorpus) (path name : String) : String :=
  (l.ask fun c => c.declaringModule c.rememberedNames path name).1

def perform (l : LiveCorpus) : Event → LiveCorpus
  | .add m => l.add m
  | .remove path => l.remove path
  | .exported path => (l.ask fun c => c.rememberedNames path).2
  | .specifier _ _ => l
  | .declaring path name => (l.ask fun c => c.declaringModule c.rememberedNames path name).2

def after (events : List Event) : LiveCorpus := events.foldl perform {}

/-- Gives the answers of `names` and writes down for which path it was asked. -/
def noted (names : String → List String) (path : String) : StateM (List String) (List String) := do
  modify (· ++ [path])
  return names path

/-- The paths whose export sets an event asks for. The walk to a declaring module asks for the targets of stars. -/
def askedBy (l : LiveCorpus) : Event → List String
  | .exported path => [path]
  | .declaring path name =>
    ((l.corpus.declaringModule (noted (l.corpus.namesWith l.memory)) path name).run []).2
  | .add _ | .remove _ | .specifier _ _ => []

/-- In the course of the events the path is first asked for while the corpus is `c`. -/
inductive FirstAsked (path : String) : LiveCorpus → List Event → Corpus → Prop
  | now {l : LiveCorpus} {e : Event} {rest : List Event} : path ∈ l.askedBy e → FirstAsked path l (e :: rest) l.corpus
  | later {l : LiveCorpus} {e : Event} {rest : List Event} {c : Corpus} : path ∉ l.askedBy e →
      FirstAsked path (l.perform e) rest c → FirstAsked path l (e :: rest) c

end LiveCorpus

namespace Corpus
variable {c : Corpus} {names : String → List String}

/-- With every memory that answers by `names`, the first computation gives the value of the second, and adds to the
memory the answers for the paths that the second writes down. -/
def Fills (c : Corpus) (names : String → List String) {α : Type} (x : Remembering α) (y : StateM (List String) α) : Prop :=
  ∀ memory asked, c.namesWith memory = names →
    ∃ more, (y.run asked) = ((x.run memory).1, asked ++ more) ∧
      ∀ path, (x.run memory).2.get? path = if path ∈ more then some (names path) else memory.get? path

theorem fills_pure {α : Type} (a : α) : c.Fills names (pure a) (pure a) := by
  intro memory asked _
  exact ⟨[], by rw [List.append_nil]; rfl, fun _ => rfl⟩

/-- What is added to a memory changes none of its answers. -/
theorem namesWith_of_filled {memory memory' : ExportMemory} {more : List String} (h : c.namesWith memory = names)
    (hget : ∀ path, memory'.get? path = if path ∈ more then some (names path) else memory.get? path) :
    c.namesWith memory' = names := by
  funext path
  rw [namesWith, hget path]
  split
  · rfl
  · exact congrFun h path

theorem Fills.bind {α β : Type} {x : Remembering α} {y : StateM (List String) α} {k : α → Remembering β}
    {j : α → StateM (List String) β} (hx : c.Fills names x y) (hk : ∀ a, c.Fills names (k a) (j a)) :
    c.Fills names (x >>= k) (y >>= j) := by
  intro memory asked h
  obtain ⟨more, hy, hmemory⟩ := hx memory asked h
  obtain ⟨later, hj, hlater⟩ := hk (x.run memory).1 (x.run memory).2 (asked ++ more) (namesWith_of_filled h hmemory)
  have hrun : (x >>= k).run memory = (k (x.run memory).1).run (x.run memory).2 := rfl
  refine ⟨more ++ later, ?_, fun path => ?_⟩
  · have hboth : (y >>= j).run asked = (j (y.run asked).1).run (y.run asked).2 := rfl
    rw [hboth, hy, hj, hrun, List.append_assoc]
  · rw [hrun, hlater path, hmemory path]
    by_cases hl : path ∈ later
    · simp [hl]
    · simp [hl]

theorem fills_rememberedNames (path : String) :
    c.Fills names (c.rememberedNames path) (LiveCorpus.noted names path) := by
  rintro memory asked rfl
  have hnoted : (LiveCorpus.noted (c.namesWith memory) path).run asked = (c.namesWith memory path, asked ++ [path]) := rfl
  refine ⟨[path], ?_, fun other => ?_⟩
  · rw [hnoted, (agrees_rememberedNames path memory rfl).1]
    rfl
  · simp only [List.mem_singleton]
    cases hg : memory.get? path with
    | some found =>
      rw [run_rememberedNames_of_some hg]
      split
      · rename_i ho
        rw [ho, namesWith, hg]
        rfl
      · rfl
    | none =>
      rw [run_rememberedNames_of_none hg]
      split
      · rename_i ho
        rw [ho, namesWith, hg]
        exact Table.get?_put_self _ _ _
      · rename_i ho
        exact Table.get?_put_of_ne _ _ (Ne.symm ho)

def filling (c : Corpus) (names : String → List String) : Alongside Remembering (StateM (List String)) where
  rel := c.Fills names
  pure_rel := fills_pure
  bind_rel := Fills.bind

theorem fills_declaringModule (path name : String) :
    c.Fills names (c.declaringModule c.rememberedNames path name) (c.declaringModule (LiveCorpus.noted names) path name) :=
  (c.filling names).declaringFrom fills_rememberedNames c _ _ _ _

theorem Fills.get?_run {α : Type} {x : Remembering α} {y : StateM (List String) α} {memory : ExportMemory}
    (h : c.Fills (c.namesWith memory) x y) (path : String) :
    (x.run memory).2.get? path =
      if path ∈ (y.run []).2 then some (c.namesWith memory path) else memory.get? path := by
  obtain ⟨more, hy, hmemory⟩ := h memory [] rfl
  rw [hy]
  exact hmemory path

end Corpus

namespace LiveCorpus
variable {l : LiveCorpus} {path : String}

/-- What one event does to the memory: it holds the answers for the paths that were asked for, and else what it held. -/
theorem get?_memory_perform (l : LiveCorpus) (e : Event) (path : String) :
    (l.perform e).memory.get? path =
      if path ∈ l.askedBy e then some (l.corpus.namesWith l.memory path) else l.memory.get? path := by
  cases e with
  | add m => rfl
  | remove p => rfl
  | exported p => exact (Corpus.fills_rememberedNames p).get?_run path
  | specifier origin text => rfl
  | declaring p name => exact (Corpus.fills_declaringModule p name).get?_run path

theorem get?_memory_perform_of_some {names : List String} (h : l.memory.get? path = some names) (e : Event) :
    (l.perform e).memory.get? path = some names := by
  rw [get?_memory_perform, h, Corpus.namesWith, h]
  exact ite_self _

/-- What the memory holds it holds for good. -/
theorem get?_memory_foldl {names : List String} (h : l.memory.get? path = some names) (events : List Event) :
    (events.foldl perform l).memory.get? path = some names := by
  induction events generalizing l with
  | nil => exact h
  | cons e rest ih => exact ih (get?_memory_perform_of_some h e)

theorem exportedAnswer_eq (l : LiveCorpus) (path : String) :
    l.exportedAnswer path = l.corpus.namesWith l.memory path :=
  (Corpus.agrees_rememberedNames path l.memory rfl).1

theorem exportedAnswer_of_some {names : List String} (h : l.memory.get? path = some names) :
    l.exportedAnswer path = names := by
  rw [exportedAnswer_eq, Corpus.namesWith, h]
  rfl

/-- A path that is not yet in the memory is answered as it is first asked for in the course of the events. -/
theorem exists_firstAsked (h : l.memory.get? path = none) (events : List Event) :
    ∃ c, FirstAsked path l (events ++ [.exported path]) c ∧
      (events.foldl perform l).exportedAnswer path = c.exportedNames path := by
  induction events generalizing l with
  | nil =>
    refine ⟨l.corpus, .now List.mem_cons_self, ?_⟩
    rw [List.foldl_nil, exportedAnswer_eq, Corpus.namesWith, h]
    rfl
  | cons e rest ih =>
    have hmemory := get?_memory_perform l e path
    by_cases hasked : path ∈ l.askedBy e
    · refine ⟨l.corpus, .now hasked, ?_⟩
      rw [if_pos hasked, Corpus.namesWith, h] at hmemory
      exact exportedAnswer_of_some (get?_memory_foldl hmemory rest)
    · rw [if_neg hasked, h] at hmemory
      obtain ⟨c, hfirst, hanswer⟩ := ih hmemory
      exact ⟨c, .later hasked hfirst, hanswer⟩

section Unchanged

theorem corpus_perform {e : Event} (h : e.isChange = false) : (l.perform e).corpus = l.corpus := by
  cases e with
  | add m => cases h
  | remove p => cases h
  | exported p => rfl
  | specifier origin text => rfl
  | declaring p name => rfl

theorem remembered_perform {e : Event} (h : e.isChange = false) (hl : l.corpus.Remembered l.memory) :
    (l.perform e).corpus.Remembered (l.perform e).memory := by
  rw [corpus_perform h]
  intro path names hnames
  rw [get?_memory_perform, hl.namesWith_eq] at hnames
  split at hnames
  · exact (Option.some.inj hnames).symm
  · exact hl path names hnames

theorem remembered_foldl {events : List Event} (h : ∀ e ∈ events, e.isChange = false)
    (hl : l.corpus.Remembered l.memory) :
    (events.foldl perform l).corpus.Remembered (events.foldl perform l).memory := by
  induction events generalizing l with
  | nil => exact hl
  | cons e rest ih =>
    exact ih (fun f hf => h f (List.mem_cons_of_mem _ hf)) (remembered_perform (h e List.mem_cons_self) hl)

theorem memory_perform {e : Event} (h : e.isQuestion = false) : (l.perform e).memory = l.memory := by
  cases e with
  | add m => rfl
  | remove p => rfl
  | exported p => cases h
  | specifier origin text => rfl
  | declaring p name => cases h

/-- No module comes or goes once a question was asked. -/
def Settled (events : List Event) : Prop :=
  events.Pairwise fun e f => e.isQuestion = true → f.isChange = false

instance (events : List Event) : Decidable (Settled events) :=
  inferInstanceAs (Decidable (events.Pairwise fun e f => e.isQuestion = true → f.isChange = false))

theorem remembered_of_settled {events : List Event} (h : Settled events) (hl : l.memory = []) :
    (events.foldl perform l).corpus.Remembered (events.foldl perform l).memory := by
  induction events generalizing l with
  | nil =>
    rw [List.foldl_nil, hl]
    exact Corpus.remembered_nil _
  | cons e rest ih =>
    obtain ⟨hrest, hsettled⟩ := List.pairwise_cons.mp h
    cases hquestion : e.isQuestion with
    | false => exact ih hsettled ((memory_perform hquestion).trans hl)
    | true =>
      -- From the first question on the corpus stays as it is, and the memory keeps its own answers.
      have hchange : e.isChange = false := by
        cases e with
        | exported p => rfl
        | declaring p name => rfl
        | add m => cases hquestion
        | remove p => cases hquestion
        | specifier origin text => cases hquestion
      have hstart : l.corpus.Remembered l.memory := hl ▸ Corpus.remembered_nil _
      have hunchanged : ∀ f ∈ rest, f.isChange = false := fun f hf => hrest f hf hquestion
      have hkept := remembered_foldl hunchanged (remembered_perform hchange hstart)
      exact hkept

end Unchanged

/-- After every history the names answered for a path are those that it exports in the corpus as it was when the path
was first asked for, this question included. If no module comes or goes once a question was asked, the answers for
export sets and for declaring modules are those of the corpus itself. -/
theorem answers_over_history (events : List Event) :
    (∀ path, ∃ c, FirstAsked path {} (events ++ [.exported path]) c ∧
      (after events).exportedAnswer path = c.exportedNames path) ∧
    (Settled events → ∀ path, (after events).exportedAnswer path = (after events).corpus.exportedNames path ∧
      ∀ name, (after events).declaringAnswer path name =
        ((after events).corpus.declaringModule (m := Id) (after events).corpus.exportedNames path name).run) := by
  refine ⟨fun path => exists_firstAsked rfl events, fun hsettled path => ?_⟩
  have hnames := (remembered_of_settled (l := {}) hsettled rfl).namesWith_eq
  refine ⟨?_, fun name => ?_⟩
  · rw [exportedAnswer_eq]
    exact congrFun hnames path
  · exact (Corpus.agrees_declaringModule path name _ hnames).1

def exporting (path name : String) : Module := { path := path, exports := [(name, none)] }

/-- A module that is replaced between two questions for its names is answered for as it was before, and a walk that
asked for it counts as a question. -/
theorem answers_over_history_replaced :
    let barrel : Module := { path := "b.ts", reexports := [{ specifier := "./a" }] }
    let events := [Event.add (exporting "a.ts" "f"), .add barrel, .declaring "b.ts" "f", .add (exporting "a.ts" "g")]
    (∃ c, FirstAsked "a.ts" {} (events ++ [.exported "a.ts"]) c ∧
      (after events).exportedAnswer "a.ts" = c.exportedNames "a.ts") ∧
    (after events).exportedAnswer "a.ts" = ["f"] ∧ (after events).corpus.exportedNames "a.ts" = ["g"] ∧
    Settled (events.take 3) ∧ (after (events.take 3)).declaringAnswer "b.ts" "f" =
      ((after (events.take 3)).corpus.declaringModule (m := Id) (after (events.take 3)).corpus.exportedNames "b.ts" "f").run := by
  intro barrel events
  have hsettled : Settled (events.take 3) := by decide
  exact ⟨(answers_over_history events).1 "a.ts", by decide +kernel, by decide +kernel, hsettled,
    ((answers_over_history (events.take 3)).2 hsettled "b.ts").2 "f"⟩

end LiveCorpus

end CorpusShape
