import CorpusShape.Proofs.Ledgers

/-!
# Runs of the two passes

The two passes take one step for each module: it is collected, and its calls are tallied. A run takes such
steps in any order over one ledger and one memory of export sets. With the resolver of the corpus a run changes
the counters at each path by themselves: those of the modules collected there are set, and the shares of all
tallied modules are added on top.
-/
namespace CorpusShape

inductive Pass where
  | collect (m : Module)
  | tally (m : Module)

namespace Pass

def run (c : Corpus) (r : Resolver) (l : Ledger) : Pass → Remembering Ledger
  | collect m => collectModule c m l
  | tally m => tallyModule r m l

def collected? (path : String) : Pass → Option Module
  | collect m => if m.path = path then some m else none
  | tally _ => none

def tallied? : Pass → Option Module
  | collect _ => none
  | tally m => some m

end Pass

def runPasses (c : Corpus) (r : Resolver) (steps : List Pass) (l : Ledger) : Remembering Ledger :=
  steps.foldlM (fun l s => s.run c r l) l

/-- Every module is collected, and then the calls of every module are tallied. -/
def Corpus.passes (c : Corpus) : List Pass := c.toList.map .collect ++ c.toList.map .tally

/-- The counters of a corpus after the steps, taken with its own resolver from zero and with the given memory. -/
def Corpus.countersAfter (c : Corpus) (memory : ExportMemory) (steps : List Pass) : Ledger :=
  ((runPasses c (scopeResolver c) steps (Ledger.zero c.paths)).run memory).1

theorem countCorpus_eq_runPasses (c : Corpus) (r : Resolver) :
    countCorpus c r = runPasses c r c.passes (Ledger.zero c.paths) := by
  unfold countCorpus runPasses Corpus.passes
  simp only [List.foldlM_append, List.foldlM_map]
  rfl

namespace Ledger

theorem zero_eq_map {paths : List String} (hn : paths.Nodup) :
    zero paths = paths.map fun p => (p, (0 : Counters)) := by
  have hfold : ∀ (ps : List String) (l : Ledger), ps.Nodup → (∀ p ∈ ps, p ∉ l.keys) →
      ps.foldl (fun l p => l.put p {}) l = l ++ ps.map fun p => (p, (0 : Counters)) := by
    intro ps
    induction ps with
    | nil => simp
    | cons p ps ih =>
      intro l hps hl
      obtain ⟨hp, hrest⟩ := List.nodup_cons.mp hps
      have hlp : p ∉ l.keys := hl p List.mem_cons_self
      rw [List.foldl_cons, ih _ hrest, Table.put_of_not_mem hlp]
      · simp [Counters.zero_def]
      · intro q hq
        rw [Table.mem_keys_put]
        rintro (rfl | hmem)
        · exact hp hq
        · exact hl q (List.mem_cons_of_mem _ hq) hmem
  simpa [zero] using hfold paths [] hn (by simp)

theorem mem_keys_zero (paths : List String) (path : String) : path ∈ (zero paths).keys ↔ path ∈ paths := by
  have hfold : ∀ (ps : List String) (l : Ledger),
      path ∈ (ps.foldl (fun l p => l.put p {}) l).keys ↔ path ∈ l.keys ∨ path ∈ ps := by
    intro ps
    induction ps with
    | nil => simp
    | cons p ps ih =>
      intro l
      rw [List.foldl_cons, ih, Table.mem_keys_put, List.mem_cons]
      tauto
  simpa [zero] using hfold paths []

theorem mem_zero {paths : List String} {e : String × Counters} (h : e ∈ zero paths) : e.2 = 0 := by
  have hfold : ∀ (ps : List String) (l : Ledger), (∀ e ∈ l, e.2 = 0) →
      ∀ e ∈ ps.foldl (fun l p => l.put p {}) l, e.2 = 0 := by
    intro ps
    induction ps with
    | nil => exact fun l hl => hl
    | cons p ps ih => exact fun l hl => ih _ (Table.forall_mem_put hl rfl)
  exact hfold paths [] (by simp) e h

end Ledger

namespace Counters

/-- Nothing is added to the fields that are set when a module is collected. -/
def KeepsSet (s : Counters) : Prop := s.exportedCount = 0 ∧ s.externalImports = 0

theorem keepsSet_zero : KeepsSet 0 := ⟨rfl, rfl⟩

theorem KeepsSet.add {s t : Counters} (hs : s.KeepsSet) (ht : t.KeepsSet) : (s + t).KeepsSet := by
  obtain ⟨hs₁, hs₂⟩ := hs
  obtain ⟨ht₁, ht₂⟩ := ht
  simp [KeepsSet, add_def, hs₁, hs₂, ht₁, ht₂]

theorem keepsSet_sum {ss : List Counters} (h : ∀ s ∈ ss, s.KeepsSet) : ss.sum.KeepsSet := by
  induction ss with
  | nil => exact keepsSet_zero
  | cons s ss ih =>
    obtain ⟨hs, hss⟩ := List.forall_mem_cons.mp h
    exact hs.add (ih hss)

theorem keepsSet_share (caller : String) (call : CallClass × Option String) (path : String) :
    (share caller call path).KeepsSet := by
  refine KeepsSet.add ?_ ?_
  · split
    · cases call.1 <;> exact ⟨rfl, rfl⟩
    · exact keepsSet_zero
  · split
    · exact ⟨rfl, rfl⟩
    · exact keepsSet_zero

theorem addCallable_add (k s : Counters) (isPublic : Bool) (body : String) :
    (k + s).addCallable isPublic body = k.addCallable isPublic body + s := by
  simp only [addCallable, add_def, mk.injEq, true_and, and_true]
  exact ⟨Int.add_right_comm .., Int.add_right_comm .., Int.add_right_comm ..⟩

theorem addClass_add (k s : Counters) (shape : ClassShape) :
    (k + s).addClass shape = k.addClass shape + s := by
  have hfold : shape.methods.foldl (fun k m => k.addCallable m.isPublic m.body) (k + s) =
      shape.methods.foldl (fun k m => k.addCallable m.isPublic m.body) k + s :=
    List.foldl_hom (· + s) fun k m => (addCallable_add k s m.isPublic m.body)
  simp only [addClass, hfold]
  simp only [add_def, mk.injEq, true_and, and_true]
  omega

/-- Collecting a module keeps what its calls have added. -/
theorem collect_add {k s : Counters} (hs : s.KeepsSet) (m : Module) (exported : Nat) :
    (k + s).collect m exported = k.collect m exported + s := by
  obtain ⟨hs₁, hs₂⟩ := hs
  have hset : ∀ imports : Int,
      { k + s with exportedCount := (exported : Int), externalImports := imports } =
        { k with exportedCount := (exported : Int), externalImports := imports } + s := by
    intro imports
    simp [add_def, hs₁, hs₂]
  have hclasses : ∀ k : Counters, m.classes.foldl addClass (k + s) = m.classes.foldl addClass k + s :=
    fun k => List.foldl_hom (· + s) fun k shape => addClass_add k s shape
  have hfunctions : ∀ k : Counters,
      m.functions.foldl (fun k f => k.addCallable f.exported f.body) (k + s) =
        m.functions.foldl (fun k f => k.addCallable f.exported f.body) k + s :=
    fun k => List.foldl_hom (· + s) fun k f => addCallable_add k s f.exported f.body
  simp only [collect, hset, hclasses, hfunctions]
  simp only [add_def, mk.injEq, true_and, and_true]
  exact Int.add_right_comm ..

end Counters

namespace Corpus
variable {c : Corpus} {names : String → List String}

/-- What the calls of a module add to the counters of the module at `path`, with the given answers for the
export sets. -/
def callShare (c : Corpus) (names : String → List String) (m : Module) (path : String) : Counters :=
  (m.calls.map fun call => Counters.share m.path (classify m.path (c.targetWith names m call)) path).sum

theorem keepsSet_callShare (c : Corpus) (names : String → List String) (m : Module) (path : String) :
    (c.callShare names m path).KeepsSet := by
  refine Counters.keepsSet_sum fun s hs => ?_
  obtain ⟨call, _, rfl⟩ := List.mem_map.mp hs
  exact Counters.keepsSet_share _ _ _

def effect (c : Corpus) (names : String → List String) (path : String) (k : Counters) : Pass → Counters
  | .collect m => if path = m.path then k.collect m (names m.path).length else k
  | .tally m => k + c.callShare names m path

theorem agrees_collectModule (m : Module) (l : Ledger) :
    c.Agrees names (collectModule c m l) (pure (l.adjust fun p k => c.effect names p k (.collect m))) := by
  unfold collectModule
  simp only [Ledger.update_eq_adjust]
  refine Agrees.andThen (agrees_rememberedNames m.path) ?_
  exact agrees_pure _

theorem agrees_mapM {α β : Type} {f : α → Remembering β} {g : α → β}
    (h : ∀ x, c.Agrees names (f x) (pure (g x))) (xs : List α) :
    c.Agrees names (xs.mapM f) (pure (xs.map g)) := by
  induction xs with
  | nil => exact agrees_pure _
  | cons x xs ih =>
    rw [List.mapM_cons]
    refine Agrees.andThen (h x) ?_
    refine Agrees.andThen ih ?_
    exact agrees_pure _

theorem agrees_tallyModule (m : Module) (l : Ledger) :
    c.Agrees names (tallyModule (scopeResolver c) m l)
      (pure (l.adjust fun p k => c.effect names p k (.tally m))) := by
  have hcall : ∀ call, c.Agrees names (classifyCall (scopeResolver c) m call)
      (pure (classify m.path (c.targetWith names m call))) :=
    fun call => (agrees_callTarget m call).bind (agrees_pure _)
  have hcalls : ∀ p, (m.calls.map (fun call => classify m.path (c.targetWith names m call))).map
      (Counters.share m.path · p) = m.calls.map fun call =>
        Counters.share m.path (classify m.path (c.targetWith names m call)) p := by
    intro p
    rw [List.map_map]
    rfl
  rw [tallyModule_eq]
  simp only [Ledger.foldl_addCall, effect, callShare, ← hcalls]
  refine Agrees.andThen (agrees_mapM hcall m.calls) ?_
  exact agrees_pure _

/-- A run over the resolver of the corpus changes the counters at each path by themselves. -/
theorem agrees_runPasses (steps : List Pass) (l : Ledger) :
    c.Agrees names (runPasses c (scopeResolver c) steps l)
      (pure (l.adjust fun p k => steps.foldl (c.effect names p) k)) := by
  induction steps generalizing l with
  | nil => simpa [runPasses, Table.adjust] using agrees_pure l
  | cons s steps ih =>
    have hs : c.Agrees names (s.run c (scopeResolver c) l) (pure (l.adjust fun p k => c.effect names p k s)) := by
      cases s with
      | collect m => exact agrees_collectModule m l
      | tally m => exact agrees_tallyModule m l
    have hrest := ih (l.adjust fun p k => c.effect names p k s)
    rw [Table.adjust_adjust] at hrest
    refine Agrees.andThen hs ?_
    exact hrest

/-- A run collects what is at a path, and adds the shares of the tallied modules on top. -/
theorem foldl_effect (path : String) (steps : List Pass) (k : Counters) :
    steps.foldl (c.effect names path) k =
      (steps.filterMap (Pass.collected? path)).foldl (fun k m => k.collect m (names m.path).length) k +
        ((steps.filterMap Pass.tallied?).map (c.callShare names · path)).sum := by
  induction steps generalizing k with
  | nil => simp
  | cons s steps ih =>
    rw [List.foldl_cons, ih]
    cases s with
    | collect m =>
      by_cases h : m.path = path
      · simp [effect, Pass.collected?, Pass.tallied?, List.filterMap_cons, h]
      · simp [effect, Pass.collected?, Pass.tallied?, List.filterMap_cons, h, Ne.symm h]
    | tally m =>
      have hs := c.keepsSet_callShare names m path
      -- What the tally adds is carried through all collecting steps after it.
      have hfold : ∀ ms : List Module,
          ms.foldl (fun k m => k.collect m (names m.path).length) (k + c.callShare names m path) =
            ms.foldl (fun k m => k.collect m (names m.path).length) k + c.callShare names m path :=
        fun ms => List.foldl_hom (· + c.callShare names m path) fun k m => Counters.collect_add hs m _
      simp only [effect, Pass.collected?, Pass.tallied?, List.filterMap_cons, hfold, List.map_cons,
        List.sum_cons, add_assoc]

/-- After a run every path has the counters that the steps leave there. -/
theorem countersAfter_eq (hc : c.Keyed) (memory : ExportMemory) (steps : List Pass) :
    c.countersAfter memory steps =
      c.paths.map fun p => (p, steps.foldl (c.effect (c.namesWith memory) p) 0) := by
  have hrun := (agrees_runPasses (c := c) steps (Ledger.zero c.paths) memory rfl).1
  rw [countersAfter, hrun, Ledger.zero_eq_map hc.nodup]
  simp [Table.adjust]

theorem keys_countersAfter (hc : c.Keyed) (memory : ExportMemory) (steps : List Pass) :
    (c.countersAfter memory steps).keys = c.paths := by
  rw [countersAfter_eq hc]
  simp [Table.keys, Function.comp_def]

theorem run_countCorpus (c : Corpus) (memory : ExportMemory) :
    ((countCorpus c (scopeResolver c)).run memory).1 = c.countersAfter memory c.passes := by
  rw [countCorpus_eq_runPasses, countersAfter]

end Corpus

end CorpusShape
