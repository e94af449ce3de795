import CorpusShape.Proofs.Doubles
import CorpusShape.Proofs.Passes
import CorpusShape.Score
import Mathlib.Algebra.Order.Field.Basic
import Mathlib.Algebra.Order.Field.Rat

/-!
# Balanced call counters

Whatever a resolver answers, each tallied call is counted once in the total of its caller, once as internal or
external, and an external call once more by its kind. The balance is kept by every step of a run, also by the
credits that other modules write, so that the share of internal calls is a fraction of one and the check of the
cohesion passes.
-/
namespace CorpusShape

namespace Counters

/-- The counters of outgoing calls add up, for a module with the given number of tallied call sites. -/
structure Balanced (k : Counters) (calls : Nat) : Prop where
  total : k.callsTotal = k.callsInternal + k.callsExternal
  external : k.callsExternal = k.callsCrossModule + k.callsTrueExternal + k.callsUnresolved
  tallied : k.callsTotal = calls
  incoming : k.incomingExternal = 0
  internal_nonneg : 0 ≤ k.callsInternal
  external_nonneg : 0 ≤ k.callsExternal

theorem balanced_zero : Balanced 0 0 := ⟨rfl, rfl, rfl, rfl, Int.le_refl 0, Int.le_refl 0⟩

theorem Balanced.add {k s : Counters} {calls more : Nat} (hk : k.Balanced calls) (hs : s.Balanced more) :
    (k + s).Balanced (calls + more) := by
  obtain ⟨hk₁, hk₂, hk₃, hk₄, hk₅, hk₆⟩ := hk
  obtain ⟨hs₁, hs₂, hs₃, hs₄, hs₅, hs₆⟩ := hs
  constructor <;> simp only [add_def] <;> omega

theorem balanced_ofClass (kind : CallClass) : (ofClass kind).Balanced 1 := by
  cases kind <;> constructor <;> decide

theorem balanced_credit : credit.Balanced 0 := by
  constructor <;> decide

/-- A counted call is one call site of its caller, and none of its callee. -/
theorem balanced_share (caller : String) (call : CallClass × Option String) (path : String) :
    (share caller call path).Balanced (if path = caller then 1 else 0) := by
  have hown : (if path = caller then ofClass call.1 else 0 : Counters).Balanced
      (if path = caller then 1 else 0) := by
    split
    · exact balanced_ofClass call.1
    · exact balanced_zero
  have hcredit : (if call = (.crossModule, some path) then credit else 0 : Counters).Balanced 0 := by
    split
    · exact balanced_credit
    · exact balanced_zero
  exact hown.add hcredit

theorem balanced_sum_share (caller : String) (calls : List (CallClass × Option String)) (path : String) :
    (calls.map (share caller · path)).sum.Balanced (if path = caller then calls.length else 0) := by
  induction calls with
  | nil => simpa using balanced_zero
  | cons call calls ih =>
    have h := (balanced_share caller call path).add ih
    by_cases hp : path = caller
    · simpa [hp, Nat.add_comm] using h
    · simpa [hp] using h

def callFields (k : Counters) : Counters :=
  { k with
    exportedCount := 0
    externalImports := 0
    privateMethods := 0
    publicMethods := 0
    internalTypes := 0
    outgoingHits := 0 }

theorem callFields_foldl {α : Type} {f : Counters → α → Counters}
    (hf : ∀ k x, (f k x).callFields = k.callFields) (xs : List α) (k : Counters) :
    (xs.foldl f k).callFields = k.callFields := by
  induction xs generalizing k with
  | nil => rfl
  | cons x xs ih => rw [List.foldl_cons, ih, hf]

theorem callFields_addCallable (k : Counters) (isPublic : Bool) (body : String) :
    (k.addCallable isPublic body).callFields = k.callFields := rfl

theorem callFields_addClass (k : Counters) (shape : ClassShape) :
    (k.addClass shape).callFields = k.callFields := by
  change (shape.methods.foldl (fun k m => k.addCallable m.isPublic m.body) k).callFields = k.callFields
  exact callFields_foldl (fun k m => callFields_addCallable k m.isPublic m.body) shape.methods k

theorem callFields_collect (k : Counters) (m : Module) (exported : Nat) :
    (k.collect m exported).callFields = k.callFields := by
  have hfunctions : ∀ k : Counters,
      (m.functions.foldl (fun k f => k.addCallable f.exported f.body) k).callFields = k.callFields :=
    callFields_foldl (fun k f => callFields_addCallable k f.exported f.body) m.functions
  change (m.functions.foldl (fun k f => k.addCallable f.exported f.body)
    (m.classes.foldl addClass _)).callFields = k.callFields
  rw [hfunctions, callFields_foldl callFields_addClass]
  rfl

theorem Balanced.collect {k : Counters} {calls : Nat} (hk : k.Balanced calls) (m : Module) (exported : Nat) :
    (k.collect m exported).Balanced calls := by
  have hfields : k.callFields.Balanced calls := ⟨hk.1, hk.2, hk.3, hk.4, hk.5, hk.6⟩
  rw [← callFields_collect k m exported] at hfields
  exact ⟨hfields.1, hfields.2, hfields.3, hfields.4, hfields.5, hfields.6⟩

/-- The exact share of internal calls; a module without calls is wholly cohesive. -/
def internalShare (k : Counters) : ℚ := if k.callsTotal = 0 then 1 else k.callsInternal / k.callsTotal

theorem Balanced.internalShare_mem {k : Counters} {calls : Nat} (hk : k.Balanced calls) :
    0 ≤ k.internalShare ∧ k.internalShare ≤ 1 := by
  obtain ⟨htotal, -, -, -, hinternal, hexternal⟩ := hk
  unfold internalShare
  split
  · exact ⟨zero_le_one, le_refl 1⟩
  · have hpos : (0 : ℚ) < k.callsTotal := by exact_mod_cast (by omega : 0 < k.callsTotal)
    have hle : (k.callsInternal : ℚ) ≤ k.callsTotal := by exact_mod_cast (by omega : k.callsInternal ≤ k.callsTotal)
    have hnonneg : (0 : ℚ) ≤ k.callsInternal := by exact_mod_cast hinternal
    exact ⟨div_nonneg hnonneg hpos.le, (div_le_one hpos).mpr hle⟩

/-- The cohesion is a double between 0 and 1. -/
theorem Balanced.cohesion?_between {k : Counters} {calls : Nat} (hk : k.Balanced calls) :
    ∃ x, k.cohesion? = some x ∧ Double.isNaN x = false ∧ 0 ≤ Double.rank x ∧ Double.rank x ≤ 1023 * 2 ^ 52 := by
  obtain ⟨htotal, -, -, -, hinternal, hexternal⟩ := hk
  unfold cohesion?
  by_cases hzero : k.callsTotal = 0
  · refine ⟨1, by simp [hzero], Double.plain_one.1, ?_⟩
    rw [Double.rank_one]
    exact ⟨by decide, le_refl _⟩
  · have hif : (k.callsTotal == 0) = false := by simp [hzero]
    rw [hif]
    exact Double.quotient?_between hinternal (by omega) (by omega)

end Counters

theorem Metrics.checkedCohesion_of_between {x : Float} (hx : Double.isNaN x = false) (h₀ : 0 ≤ Double.rank x)
    (h₁ : Double.rank x ≤ 1023 * 2 ^ 52) : checkedCohesion x = .ok x := by
  have hbelow : (Double.less x 1 || Double.same x 1) = true := by
    simp [Double.less, Double.same, hx, Double.plain_one, Double.rank_one]
    omega
  have habove : (Double.less 0 x || Double.same 0 x) = true := by
    simp [Double.less, Double.same, hx, Double.plain_zero, Double.rank_zero]
    omega
  simp [checkedCohesion, hbelow, habove]

/-- The number of call sites that a step tallies for the module at `path`. -/
def Pass.sites (path : String) : Pass → Nat
  | collect _ => 0
  | tally m => if path = m.path then m.calls.length else 0

theorem length_mapM_run {α β : Type} (f : α → Remembering β) (xs : List α) (memory : ExportMemory) :
    ((xs.mapM f).run memory).1.length = xs.length := by
  induction xs generalizing memory with
  | nil => rfl
  | cons x xs ih =>
    rw [List.mapM_cons]
    exact congrArg Nat.succ (ih ((f x).run memory).2)

/-- A step changes the counters at every path so that they stay balanced. -/
theorem Pass.run_eq_adjust (c : Corpus) (r : Resolver) (s : Pass) (l : Ledger) (memory : ExportMemory) :
    ∃ f, ((s.run c r l).run memory).1 = l.adjust f ∧
      ∀ p k calls, Counters.Balanced k calls → (f p k).Balanced (calls + s.sites p) := by
  cases s with
  | collect m =>
    have hrun : ((collectModule c m l).run memory).1 = l.adjust fun p k =>
        if p = m.path then k.collect m ((c.rememberedNames m.path).run memory).1.length else k :=
      Ledger.update_eq_adjust l m.path (·.collect m ((c.rememberedNames m.path).run memory).1.length)
    refine ⟨_, hrun, fun p k calls hk => ?_⟩
    split
    · exact hk.collect m _
    · exact hk
  | tally m =>
    have hrun : ((tallyModule r m l).run memory).1 = l.adjust fun p k =>
        k + (((m.calls.mapM (classifyCall r m)).run memory).1.map (Counters.share m.path · p)).sum := by
      rw [tallyModule_eq]
      exact Ledger.foldl_addCall m.path ((m.calls.mapM (classifyCall r m)).run memory).1 l
    refine ⟨_, hrun, fun p k calls hk => ?_⟩
    have hshare := Counters.balanced_sum_share m.path ((m.calls.mapM (classifyCall r m)).run memory).1 p
    rw [length_mapM_run] at hshare
    exact hk.add hshare

/-- A run keeps the paths of a ledger and the balance of its counters. -/
theorem runPasses_balanced (c : Corpus) (r : Resolver) (steps : List Pass) {l : Ledger} {n : String → Nat}
    (hl : ∀ e ∈ l, e.2.Balanced (n e.1)) (memory : ExportMemory) :
    ((runPasses c r steps l).run memory).1.keys = l.keys ∧
      ∀ e ∈ ((runPasses c r steps l).run memory).1,
        e.2.Balanced (n e.1 + (steps.map (Pass.sites e.1)).sum) := by
  -- The number of call sites so far is part of the invariant, so it varies with the ledger.
  induction steps generalizing l n memory with
  | nil => exact ⟨rfl, hl⟩
  | cons s steps ih =>
    obtain ⟨f, hf, hbalanced⟩ := s.run_eq_adjust c r l memory
    have hstep : ∀ e ∈ l.adjust f, e.2.Balanced (n e.1 + s.sites e.1) := by
      intro e he
      obtain ⟨e₀, he₀, rfl⟩ := List.mem_map.mp he
      exact hbalanced _ _ _ (hl e₀ he₀)
    have hrun : ((runPasses c r (s :: steps) l).run memory).1 =
        ((runPasses c r steps (l.adjust f)).run ((s.run c r l).run memory).2).1 := by
      rw [← hf]
      rfl
    obtain ⟨hkeys, hrest⟩ := ih (n := fun p => n p + s.sites p) hstep ((s.run c r l).run memory).2
    rw [hrun]
    refine ⟨hkeys.trans (Table.keys_adjust l f), fun e he => ?_⟩
    rw [List.map_cons, List.sum_cons, ← Nat.add_assoc]
    exact hrest e he

/-- In every run of steps from zero, over any resolver and any memory, the counters of each tracked module
are balanced; its share of internal calls lies between 0 and 1, and its cohesion passes the check. -/
theorem call_counters_balanced (c : Corpus) (r : Resolver) (memory : ExportMemory) (tracked : List String)
    (steps : List Pass) :
    let l := ((runPasses c r steps (Ledger.zero tracked)).run memory).1
    (∀ p, p ∈ l.keys ↔ p ∈ tracked) ∧
      ∀ p k, (p, k) ∈ l →
        k.callsTotal = k.callsInternal + k.callsExternal ∧
        k.callsExternal = k.callsCrossModule + k.callsTrueExternal + k.callsUnresolved ∧
        k.callsTotal = ((steps.map (Pass.sites p)).sum : Nat) ∧
        k.incomingExternal = 0 ∧
        (0 ≤ k.internalShare ∧ k.internalShare ≤ 1) ∧
        ∃ x, k.cohesion? = some x ∧ Metrics.checkedCohesion x = .ok x := by
  intro l
  have hzero : ∀ e ∈ Ledger.zero tracked, e.2.Balanced 0 := by
    intro e he
    rw [Ledger.mem_zero he]
    exact Counters.balanced_zero
  obtain ⟨hkeys, hbalanced⟩ := runPasses_balanced (n := fun _ => 0) c r steps hzero memory
  refine ⟨fun p => ?_, fun p k hk => ?_⟩
  · rw [← Ledger.mem_keys_zero tracked p, ← hkeys]
  · have h := hbalanced _ hk
    rw [Nat.zero_add] at h
    obtain ⟨x, hx, hnan, hlow, hhigh⟩ := h.cohesion?_between
    exact ⟨h.total, h.external, h.tallied, h.incoming, h.internalShare_mem, x, hx,
      Metrics.checkedCohesion_of_between hnan hlow hhigh⟩

end CorpusShape
