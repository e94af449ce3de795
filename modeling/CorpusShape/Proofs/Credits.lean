import CorpusShape.Proofs.Passes
import CorpusShape.Proofs.Targets
import Mathlib.Algebra.BigOperators.Group.Multiset.Basic
import Mathlib.Algebra.Order.Ring.Int

/-!
# Conservation of credits

A call across modules is counted once at its caller and credited once at its callee. Since a target always lies
in the corpus, and every module of the corpus has counters, no credit is lost, and since every module has its
counters once, none is given twice. A call inside a module credits nobody.
-/
namespace CorpusShape

theorem classify_inModule {path : String} (hp : path ≠ "") (caller : String) :
    classify caller (.inModule path) =
      if path = caller then (.self, some path) else (.crossModule, some path) := by
  have hfilter : (some path).filter (!·.isEmpty) = some path := by simp [hp]
  simp only [classify, CallTarget.inModule, hfilter, beq_iff_eq]

theorem classify_eq_crossModule {caller path : String} {t : CallTarget} :
    classify caller t = (.crossModule, some path) ↔ t = .inModule path ∧ path ≠ "" ∧ path ≠ caller := by
  obtain ⟨kind, found⟩ := t
  cases kind with
  | external => simp [classify, CallTarget.inModule]
  | unresolved => simp [classify, CallTarget.inModule]
  | module_ =>
    cases found with
    | none => simp [classify, CallTarget.inModule]
    | some found =>
      by_cases hempty : found = ""
      · have hfilter : (some found).filter (!·.isEmpty) = none := by simp [hempty]
        simp only [classify, hfilter, CallTarget.inModule]
        constructor
        · intro h
          simp at h
        · rintro ⟨h, hne, -⟩
          simp only [CallTarget.mk.injEq, Option.some.injEq, true_and] at h
          exact absurd (h ▸ hempty) hne
      · have hclass := classify_inModule hempty caller
        rw [CallTarget.inModule] at hclass
        rw [hclass, CallTarget.inModule]
        by_cases hself : found = caller
        · simp only [hself, if_true, CallTarget.mk.injEq, Option.some.injEq, true_and]
          constructor
          · intro h
            simp at h
          · rintro ⟨rfl, -, h⟩
            exact absurd rfl h
        · simp only [hself, if_false, Prod.mk.injEq, CallTarget.mk.injEq, Option.some.injEq, true_and]
          constructor
          · rintro rfl
            exact ⟨rfl, hempty, hself⟩
          · exact fun h => h.1

theorem classify_ne_crossModule {t : CallTarget} (h : t.kind ≠ .module_) (caller : String) :
    (classify caller t).1 ≠ .crossModule := by
  obtain ⟨kind, path⟩ := t
  cases kind with
  | module_ => exact absurd rfl h
  | external => simp [classify]
  | unresolved => simp [classify]

namespace Counters

theorem sum_field {f : Counters → Int} (hzero : f 0 = 0) (hadd : ∀ a b, f (a + b) = f a + f b)
    (ks : List Counters) : f ks.sum = (ks.map f).sum := by
  induction ks with
  | nil => exact hzero
  | cons k ks ih => rw [List.sum_cons, hadd, ih, List.map_cons, List.sum_cons]

/-- As many credits have been given as calls across modules have been made. -/
def Even (k : Counters) : Prop := k.incomingInternal = k.callsCrossModule

theorem even_sum {ks : List Counters} (h : ∀ k ∈ ks, k.Even) : ks.sum.Even := by
  have hfields : ks.map incomingInternal = ks.map callsCrossModule := List.map_congr_left h
  rw [Even, sum_field (f := incomingInternal) rfl fun _ _ => rfl,
    sum_field (f := callsCrossModule) rfl fun _ _ => rfl, hfields]

theorem ofClass_incomingInternal (kind : CallClass) : (ofClass kind).incomingInternal = 0 := by
  cases kind <;> rfl

theorem ofClass_callsCrossModule (kind : CallClass) :
    (ofClass kind).callsCrossModule = if kind = .crossModule then 1 else 0 := by
  cases kind <;> rfl

/-- A call adds to the credits of a path only if it goes there from another module. -/
theorem share_incomingInternal (caller : String) (call : CallClass × Option String) (path : String) :
    (share caller call path).incomingInternal = if call = (.crossModule, some path) then 1 else 0 := by
  have hadd : (share caller call path).incomingInternal =
      (if path = caller then ofClass call.1 else 0).incomingInternal +
        (if call = (.crossModule, some path) then credit else 0).incomingInternal := rfl
  have hown : (if path = caller then ofClass call.1 else 0).incomingInternal = 0 := by
    split
    · exact ofClass_incomingInternal _
    · rfl
  rw [hadd, hown, Int.zero_add]
  split
  · rfl
  · rfl

theorem sum_ite_eq {paths : List String} (hn : paths.Nodup) {path : String} (hp : path ∈ paths) (k : Counters) :
    (paths.map fun p => if p = path then k else 0).sum = k := by
  have hnone : ∀ ps : List String, path ∉ ps → (ps.map fun p => if p = path then k else 0).sum = 0 := by
    intro ps hps
    refine List.sum_eq_zero fun x hx => ?_
    obtain ⟨p, hp, rfl⟩ := List.mem_map.mp hx
    exact if_neg fun he : p = path => hps (he ▸ hp)
  induction paths with
  | nil => simp at hp
  | cons p ps ih =>
    obtain ⟨hfresh, hrest⟩ := List.nodup_cons.mp hn
    by_cases he : p = path
    · subst he
      simp [hnone ps hfresh]
    · have hmem : path ∈ ps := (List.mem_cons.mp hp).resolve_left (Ne.symm he)
      simp [he, ih hrest hmem]

/-- Over all paths a call adds as many credits as calls across modules, if caller and callee have counters. -/
theorem even_sum_share {paths : List String} (hn : paths.Nodup) {caller : String} (hcaller : caller ∈ paths)
    {call : CallClass × Option String}
    (hcallee : call.1 = .crossModule → ∃ callee ∈ paths, call = (.crossModule, some callee)) :
    (paths.map (share caller call)).sum.Even := by
  have hsplit : (paths.map (share caller call)).sum =
      (paths.map fun p => if p = caller then ofClass call.1 else 0).sum +
        (paths.map fun p => if call = (.crossModule, some p) then credit else 0).sum :=
    List.sum_map_add
  rw [hsplit, sum_ite_eq hn hcaller]
  by_cases hcross : call.1 = .crossModule
  · obtain ⟨callee, hmem, rfl⟩ := hcallee hcross
    -- The callee is one of the paths, and only once.
    have hcredit : (paths.map fun p => if (CallClass.crossModule, some callee) =
        (CallClass.crossModule, some p) then credit else 0).sum = credit := by
      simp only [Prod.mk.injEq, Option.some.injEq, true_and, eq_comm (a := callee)]
      exact sum_ite_eq hn hmem credit
    rw [hcredit]
    rfl
  · have hnone : (paths.map fun p => if call = (.crossModule, some p) then credit else 0).sum = 0 := by
      refine List.sum_eq_zero fun x hx => ?_
      obtain ⟨p, _, rfl⟩ := List.mem_map.mp hx
      exact if_neg fun he => hcross (by rw [he])
    rw [hnone, add_zero, Even, ofClass_incomingInternal, ofClass_callsCrossModule, if_neg hcross]

end Counters

namespace Corpus
variable {c : Corpus} {names : String → List String}

/-- The number of calls of a module that the resolver sends to the module at `path`. -/
def callsTo (c : Corpus) (memory : ExportMemory) (path : String) (m : Module) : Nat :=
  m.calls.countP fun call => decide (((scopeResolver c m call).run memory).1 = .inModule path)

section
variable (hne : ∀ p ∈ c.paths, p ≠ "") {m : Module} (hm : m.path ∈ c.paths)
include hne hm

theorem classify_targetWith (call : CallSite) (path : String) :
    classify m.path (c.targetWith names m call) = (.crossModule, some path) ↔
      c.targetWith names m call = .inModule path ∧ path ≠ m.path := by
  rw [classify_eq_crossModule]
  constructor
  · rintro ⟨h, -, hself⟩
    exact ⟨h, hself⟩
  · rintro ⟨h, hself⟩
    obtain ⟨found, hfound, hinside⟩ := targetWith_holds names hm call (congrArg CallTarget.kind h)
    have hsame : some found = some path := congrArg CallTarget.path (hinside.symm.trans h)
    exact ⟨h, hne path (Option.some.inj hsame ▸ hfound), hself⟩

theorem callShare_incomingInternal (memory : ExportMemory) (path : String) :
    (c.callShare (c.namesWith memory) m path).incomingInternal =
      if path = m.path then 0 else (c.callsTo memory path m : Int) := by
  have hcount : ∀ calls : List CallSite,
      ((calls.map fun call => Counters.share m.path
          (classify m.path (c.targetWith (c.namesWith memory) m call)) path).map
            Counters.incomingInternal).sum =
        if path = m.path then 0 else
          (calls.countP fun call => decide (((scopeResolver c m call).run memory).1 = .inModule path) : Int) := by
    intro calls
    induction calls with
    | nil => simp
    | cons call calls ih =>
      rw [List.map_cons, List.map_cons, List.sum_cons, ih, Counters.share_incomingInternal,
        List.countP_cons, run_scopeResolver]
      simp only [classify_targetWith hne hm]
      by_cases hself : path = m.path
      · simp [hself]
      · by_cases htarget : c.targetWith (c.namesWith memory) m call = .inModule path
        · simp [hself, htarget, Int.add_comm]
        · simp [hself, htarget]
  rw [callShare, Counters.sum_field (f := Counters.incomingInternal) rfl fun _ _ => rfl]
  exact hcount m.calls

end

/-- After the calls of the modules have been tallied, the counters of each path are the sum of their shares. -/
theorem countersAfter_tallies (hc : c.Keyed) (memory : ExportMemory) (order : List Module) :
    c.countersAfter memory (order.map .tally) =
      c.paths.map fun p => (p, (order.map (c.callShare (c.namesWith memory) · p)).sum) := by
  have hcollected : ∀ p, (order.map Pass.tally).filterMap (Pass.collected? p) = [] := by
    intro p
    simp [List.filterMap_map, Function.comp_def, Pass.collected?]
  have htallied : (order.map Pass.tally).filterMap Pass.tallied? = order := by
    simp [List.filterMap_map, Function.comp_def, Pass.tallied?]
  rw [countersAfter_eq hc]
  simp [foldl_effect, hcollected, htallied]

theorem sum_callShare_incomingInternal (hne : ∀ p ∈ c.paths, p ≠ "") (memory : ExportMemory) (path : String)
    {ms : List Module} (hms : ∀ m ∈ ms, m.path ∈ c.paths) :
    (ms.map (c.callShare (c.namesWith memory) · path)).sum.incomingInternal =
      (((ms.filter (·.path ≠ path)).map (c.callsTo memory path)).sum : Nat) := by
  rw [Counters.sum_field (f := Counters.incomingInternal) rfl fun _ _ => rfl]
  induction ms with
  | nil => rfl
  | cons m ms ih =>
    obtain ⟨hm, hrest⟩ := List.forall_mem_cons.mp hms
    rw [List.map_cons, List.map_cons, List.sum_cons, ih hrest, callShare_incomingInternal hne hm]
    by_cases hself : path = m.path
    · simp [hself]
    · simp [hself, Ne.symm hself]

theorem even_sum_callShare (hc : c.Keyed) (hne : ∀ p ∈ c.paths, p ≠ "") {m : Module} (hm : m.path ∈ c.paths) :
    (c.paths.map (c.callShare names m)).sum.Even := by
  have hswap : (c.paths.map (c.callShare names m)).sum = (m.calls.map fun call =>
      (c.paths.map (Counters.share m.path (classify m.path (c.targetWith names m call)))).sum).sum :=
    Multiset.sum_map_sum_map (c.paths : Multiset String) (m.calls : Multiset CallSite)
  rw [hswap]
  refine Counters.even_sum fun k hk => ?_
  obtain ⟨call, _, rfl⟩ := List.mem_map.mp hk
  refine Counters.even_sum_share hc.nodup hm fun hcross => ?_
  have hkind : (c.targetWith names m call).kind = .module_ := by
    by_contra h
    exact classify_ne_crossModule h m.path hcross
  obtain ⟨callee, hcallee, htarget⟩ := targetWith_holds names hm call hkind
  refine ⟨callee, hcallee, (classify_targetWith hne hm call callee).mpr ⟨htarget, ?_⟩⟩
  rintro rfl
  rw [htarget, classify_inModule (hne _ hcallee)] at hcross
  simp at hcross

/-- Whatever the order in which the calls of the modules are tallied: the ledger has the modules of the corpus,
each module is credited with the calls of other modules that are resolved to it, and over all modules there are
as many credits as calls across modules. -/
theorem incoming_credits_conserved (hc : c.Keyed) (hne : ∀ p ∈ c.paths, p ≠ "") (memory : ExportMemory)
    {order : List Module} (horder : order.Perm c.toList) :
    let l := c.countersAfter memory (order.map .tally)
    l.keys = c.paths ∧
      (∀ q ∈ c.paths, ∃ k, l.get? q = some k ∧
        k.incomingInternal = (((c.toList.filter (·.path ≠ q)).map (c.callsTo memory q)).sum : Nat)) ∧
      (l.map (·.2.incomingInternal)).sum = (l.map (·.2.callsCrossModule)).sum := by
  intro l
  have hpaths : ∀ m ∈ order, m.path ∈ c.paths := fun m hm => hc.mem_paths (horder.mem_iff.mp hm)
  have hl : l = c.paths.map fun p => (p, (order.map (c.callShare (c.namesWith memory) · p)).sum) :=
    countersAfter_tallies hc memory order
  have hkeys : l.keys = c.paths := keys_countersAfter hc memory _
  refine ⟨hkeys, fun q hq => ?_, ?_⟩
  · refine ⟨(order.map (c.callShare (c.namesWith memory) · q)).sum, ?_, ?_⟩
    · refine Table.get?_of_mem (hkeys ▸ hc.nodup) ?_
      rw [hl]
      exact List.mem_map_of_mem hq
    · rw [sum_callShare_incomingInternal hne memory q hpaths]
      exact congrArg Nat.cast ((horder.filter _).map _).sum_eq
  · -- Summed by the module that makes the calls, each summand has as many credits as calls across modules.
    have hswap : (l.map Prod.snd).sum = (order.map fun m =>
        (c.paths.map (c.callShare (c.namesWith memory) m)).sum).sum := by
      rw [hl, List.map_map]
      exact Multiset.sum_map_sum_map (c.paths : Multiset String) (order : Multiset Module)
    have heven : Counters.Even (l.map Prod.snd).sum := by
      rw [hswap]
      refine Counters.even_sum fun k hk => ?_
      obtain ⟨m, hm, rfl⟩ := List.mem_map.mp hk
      exact even_sum_callShare hc hne (hpaths m hm)
    rw [Counters.Even, Counters.sum_field (f := Counters.incomingInternal) rfl fun _ _ => rfl,
      Counters.sum_field (f := Counters.callsCrossModule) rfl fun _ _ => rfl, List.map_map,
      List.map_map] at heven
    exact heven

def boundCall (name : String) (b : Binding) : CallSite :=
  { line := 1, kind := .name, text := name, root := some name, scope := some [[(name, b)]] }

/-- A module that calls the other one twice, through a barrel that takes itself over as well, and itself once. -/
def pairCaller : Module :=
  { path := "a.ts"
    exports := [("run", some "run")]
    calls := [boundCall "f" (.imported (some "./index") (some "f")),
      boundCall "f" (.imported (some "./b") (some "f")), boundCall "run" .declared] }

def pairCallee : Module :=
  { path := "b.ts"
    exports := [("f", some "f")]
    calls := [boundCall "run" (.imported (some "./a") (some "run"))] }

def pairBarrel : Module :=
  { path := "index.ts"
    reexports := [{ specifier := "./b", names := some [("f", "f")] }, { specifier := "./index" }] }

theorem incoming_credits_conserved_pair :
    let c := ofModules [pairCaller, pairCallee, pairBarrel]
    let l := c.countersAfter [] ([pairBarrel, pairCallee, pairCaller].map .tally)
    (∃ k, l.get? "b.ts" = some k ∧ k.incomingInternal = 2) ∧
      (l.map (·.2.incomingInternal)).sum = (l.map (·.2.callsCrossModule)).sum := by
  intro c l
  have hpaths : c.paths = ["a.ts", "b.ts", "index.ts"] := by decide
  have hne : ∀ p ∈ c.paths, p ≠ "" := by
    rw [hpaths]
    decide
  have horder : [pairBarrel, pairCallee, pairCaller].Perm c.toList :=
    List.reverse_perm [pairCaller, pairCallee, pairBarrel]
  obtain ⟨-, hcredits, htotals⟩ := incoming_credits_conserved (keyed_ofModules _) hne [] horder
  have hb : "b.ts" ∈ c.paths := by
    rw [hpaths]
    decide
  obtain ⟨k, hk, hcount⟩ := hcredits "b.ts" hb
  have htwo : ((c.toList.filter (·.path ≠ "b.ts")).map (c.callsTo [] "b.ts")).sum = 2 := by
    decide +kernel
  exact ⟨⟨k, hk, by rw [hcount, htwo]; rfl⟩, htotals⟩

end Corpus

end CorpusShape
