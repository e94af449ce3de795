import CorpusShape.Proofs.ExportMemory
import CorpusShape.Proofs.Tables
import Mathlib.Algebra.BigOperators.Group.List.Basic

/-!
# Ledgers as sums of shares

Counting a call adds a share to the counters of every path: the caller's share says what kind of call it is,
the callee's share is one credit, and all other shares are zero. Shares are added field by field, so that the
order in which calls are counted does not matter. Tallying a module first classifies all of its calls, whatever
the resolver does on the way, and then adds their shares.
-/
namespace CorpusShape

attribute [ext] Counters

namespace Counters

instance : Zero Counters := ⟨{}⟩

instance : Add Counters where
  add a b :=
    { exportedCount := a.exportedCount + b.exportedCount
      externalImports := a.externalImports + b.externalImports
      privateMethods := a.privateMethods + b.privateMethods
      publicMethods := a.publicMethods + b.publicMethods
      internalTypes := a.internalTypes + b.internalTypes
      outgoingHits := a.outgoingHits + b.outgoingHits
      callsTotal := a.callsTotal + b.callsTotal
      callsInternal := a.callsInternal + b.callsInternal
      callsExternal := a.callsExternal + b.callsExternal
      callsCrossModule := a.callsCrossModule + b.callsCrossModule
      callsTrueExternal := a.callsTrueExternal + b.callsTrueExternal
      callsUnresolved := a.callsUnresolved + b.callsUnresolved
      incomingInternal := a.incomingInternal + b.incomingInternal
      incomingExternal := a.incomingExternal + b.incomingExternal }

theorem add_def (a b : Counters) : a + b =
    ⟨a.exportedCount + b.exportedCount, a.externalImports + b.externalImports,
      a.privateMethods + b.privateMethods, a.publicMethods + b.publicMethods,
      a.internalTypes + b.internalTypes, a.outgoingHits + b.outgoingHits,
      a.callsTotal + b.callsTotal, a.callsInternal + b.callsInternal,
      a.callsExternal + b.callsExternal, a.callsCrossModule + b.callsCrossModule,
      a.callsTrueExternal + b.callsTrueExternal, a.callsUnresolved + b.callsUnresolved,
      a.incomingInternal + b.incomingInternal, a.incomingExternal + b.incomingExternal⟩ := rfl

theorem zero_def : (0 : Counters) = {} := rfl

instance : AddCommMonoid Counters where
  add_assoc a b k := by simp only [add_def, Int.add_assoc]
  zero_add a := by simp only [add_def, zero_def, Int.zero_add]
  add_zero a := by simp only [add_def, zero_def, Int.add_zero]
  add_comm a b := by
    simp only [add_def, mk.injEq]
    exact ⟨Int.add_comm .., Int.add_comm .., Int.add_comm .., Int.add_comm .., Int.add_comm ..,
      Int.add_comm .., Int.add_comm .., Int.add_comm .., Int.add_comm .., Int.add_comm ..,
      Int.add_comm .., Int.add_comm .., Int.add_comm .., Int.add_comm ..⟩
  nsmul := nsmulRec

/-- What one call of the given kind adds for its caller. -/
def ofClass (kind : CallClass) : Counters := addCall 0 kind

/-- What one call from another module adds for its callee. -/
def credit : Counters := addIncoming 0

theorem addCall_eq (k : Counters) (kind : CallClass) : k.addCall kind = k + ofClass kind := by
  cases kind <;> simp [addCall, ofClass, add_def, zero_def]

theorem addIncoming_eq (k : Counters) : k.addIncoming = k + credit := by
  simp [addIncoming, credit, add_def, zero_def]

/-- What a counted call adds to the counters of the module at `path`. -/
def share (caller : String) (call : CallClass × Option String) (path : String) : Counters :=
  (if path = caller then ofClass call.1 else 0) + if call = (.crossModule, some path) then credit else 0

end Counters

namespace Ledger

theorem update_eq_adjust (l : Ledger) (path : String) (f : Counters → Counters) :
    l.update path f = l.adjust fun p k => if p = path then f k else k := by
  refine List.map_congr_left fun e _ => ?_
  by_cases h : e.1 = path
  · simp [h]
  · simp [h]

theorem addCall_eq_adjust (l : Ledger) (caller : String) (call : CallClass × Option String) :
    l.addCall caller call = l.adjust fun p k => k + Counters.share caller call p := by
  have hown : l.update caller (·.addCall call.1) =
      l.adjust fun p k => k + if p = caller then Counters.ofClass call.1 else 0 := by
    rw [update_eq_adjust]
    refine Table.adjust_congr _ fun p k => ?_
    by_cases h : p = caller
    · simp [h, Counters.addCall_eq]
    · simp [h]
  unfold addCall
  dsimp only
  split
  · rename_i kind callee
    rw [hown, update_eq_adjust, Table.adjust_adjust]
    refine Table.adjust_congr _ fun p k => ?_
    by_cases h : p = callee
    · simp [h, Counters.addIncoming_eq, Counters.share, add_assoc]
    · simp [h, Ne.symm h, Counters.share]
  · rename_i hcall
    rw [hown]
    refine Table.adjust_congr _ fun p k => ?_
    have hne : call ≠ (.crossModule, some p) := fun h => hcall p h
    simp [Counters.share, hne]

theorem foldl_addCall (caller : String) (calls : List (CallClass × Option String)) (l : Ledger) :
    calls.foldl (fun l call => l.addCall caller call) l =
      l.adjust fun p k => k + (calls.map (Counters.share caller · p)).sum := by
  induction calls generalizing l with
  | nil => simp [Table.adjust]
  | cons call calls ih =>
    rw [List.foldl_cons, ih, addCall_eq_adjust, Table.adjust_adjust]
    exact Table.adjust_congr _ fun p k => by simp [add_assoc]

end Ledger

/-- All calls of a module are classified, and then counted. -/
theorem tallyModule_eq (r : Resolver) (m : Module) (l : Ledger) :
    tallyModule r m l = do
      let calls ← m.calls.mapM (classifyCall r m)
      return calls.foldl (fun l call => l.addCall m.path call) l := by
  unfold tallyModule
  induction m.calls generalizing l with
  | nil => simp
  | cons call calls ih =>
    simp only [List.foldlM_cons, List.mapM_cons, bind_assoc, pure_bind, ih, List.foldl_cons]

end CorpusShape
