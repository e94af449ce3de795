import CorpusShape.Proofs.ExportSets
import CorpusShape.Proofs.Isolation
import CorpusShape.Proofs.SameOutside
import CorpusShape.Proofs.CallPlaces
import CorpusShape.Proofs.Scores
import Mathlib.Algebra.Order.BigOperators.Group.List

/-!
# How large counters can become

The extent of a module is the number of things that are counted in it, and no counter of a corpus is negative or above
the extents of all its modules together. What a module declares, lists and calls is read off the nodes of its tree, so
that its extent is at most a small multiple of the size of its tree and the length of its text.
-/
namespace CorpusShape

open Syntax

namespace Counters
variable {k s : Counters} {bound more : Nat}

/-- All counters, in the order in which they are reported. -/
def fields : List (Counters → Int) :=
  [exportedCount, externalImports, privateMethods, publicMethods, internalTypes, outgoingHits, callsTotal,
    callsInternal, callsExternal, callsCrossModule, callsTrueExternal, callsUnresolved, incomingInternal,
    incomingExternal]

theorem fit_iff : k.Fit bound ↔ ∀ f ∈ fields, (Amount.int (f k)).Fits bound := by
  have hvalues : k.toList.map (·.2) = fields.map (· k) := rfl
  have hmap : k.Fit bound ↔ ∀ i ∈ k.toList.map (·.2), (Amount.int i).Fits bound := by
    simp only [Fit, List.forall_mem_map]
  rw [hmap, hvalues, List.forall_mem_map]

theorem field_add {f : Counters → Int} (hf : f ∈ fields) (k s : Counters) : f (k + s) = f k + f s := by
  fin_cases hf <;> rfl

theorem Fit.mono (h : k.Fit bound) (hle : bound ≤ more) : k.Fit more := fun e he => (h e he).mono hle

theorem fit_zero : (0 : Counters).Fit 0 := by
  refine fit_iff.mpr fun f hf => ⟨0, ?_, Nat.le_refl 0⟩
  fin_cases hf <;> rfl

theorem Fit.add (hk : k.Fit bound) (hs : s.Fit more) : (k + s).Fit (bound + more) := by
  refine fit_iff.mpr fun f hf => ?_
  obtain ⟨m, hm, hmle⟩ := fit_iff.mp hk f hf
  obtain ⟨n, hn, hnle⟩ := fit_iff.mp hs f hf
  exact ⟨m + n, by rw [field_add hf, hm, hn, Int.natCast_add], Nat.add_le_add hmle hnle⟩

theorem Fit.foldl {α : Type} {f : Counters → α → Counters} {g : α → Nat}
    (hstep : ∀ k bound x, Fit bound k → Fit (bound + g x) (f k x)) (hk : k.Fit bound) (xs : List α) :
    (xs.foldl f k).Fit (bound + (xs.map g).sum) := by
  induction xs generalizing k bound with
  | nil => exact hk
  | cons x xs ih =>
    rw [List.foldl_cons, List.map_cons, List.sum_cons, ← Nat.add_assoc]
    exact ih (hstep k bound x hk)

theorem fit_sum_map {α : Type} {f : α → Counters} {g : α → Nat} (h : ∀ x, (f x).Fit (g x)) (xs : List α) :
    (xs.map f).sum.Fit (xs.map g).sum := by
  induction xs with
  | nil => exact fit_zero
  | cons x xs ih => exact (h x).add ih

theorem fits_one (b : Bool) : (Amount.int (one b)).Fits 1 := by
  cases b with
  | false => exact ⟨0, rfl, Nat.zero_le 1⟩
  | true => exact ⟨1, rfl, Nat.le_refl 1⟩

theorem Fit.addCallable (hk : k.Fit bound) (isPublic : Bool) (body : String) :
    (k.addCallable isPublic body).Fit (bound + 1) := by
  have hadd : k.addCallable isPublic body =
      k + { publicMethods := one isPublic, privateMethods := one (!isPublic), outgoingHits := one (hasOutgoing body.toList) } := by
    simp [Counters.addCallable, add_def]
  have hzero : (Amount.int 0).Fits 1 := ⟨0, rfl, Nat.zero_le 1⟩
  rw [hadd]
  refine hk.add (fit_iff.mpr fun f hf => ?_)
  fin_cases hf
  all_goals first | exact hzero | exact fits_one _

end Counters

def ClassShape.extent (shape : ClassShape) : Nat := shape.methods.length + shape.propertyCount + shape.constructorCount

def Reexport.listed (r : Reexport) : List String := r.whole.toList ++ (r.names.map Table.keys).getD []

namespace Module

/-- The names that a module exports or lists in its re-exports. -/
def listed (m : Module) : List String := m.exports.keys ++ m.reexports.flatMap Reexport.listed

/-- The number of things that the statements of a module declare, apart from exported names. -/
def declared (m : Module) : Nat := m.imports.length + (m.classes.map ClassShape.extent).sum + m.functions.length

/-- The number of things that can be counted in a module; a call may be counted on both sides. -/
def extent (m : Module) : Nat :=
  m.listed.length + m.declared + outgoingCount m.text.toList + 2 * m.calls.length

end Module

namespace Counters
variable {k : Counters} {bound : Nat}

theorem Fit.addClass (hk : k.Fit bound) (shape : ClassShape) : (k.addClass shape).Fit (bound + shape.extent) := by
  have hmethods := hk.foldl (f := fun k m => k.addCallable m.isPublic m.body) (g := fun _ => 1)
    (fun k bound m hk => hk.addCallable m.isPublic m.body) shape.methods
  have htypes : Fit (shape.propertyCount + shape.constructorCount)
      { internalTypes := (shape.propertyCount : Int) + shape.constructorCount } := by
    refine fit_iff.mpr fun f hf => ?_
    fin_cases hf
    all_goals first | exact ⟨0, rfl, Nat.zero_le _⟩ | exact ⟨shape.propertyCount + shape.constructorCount, rfl, Nat.le_refl _⟩
  have hadd : k.addClass shape = shape.methods.foldl (fun k m => k.addCallable m.isPublic m.body) k +
      { internalTypes := (shape.propertyCount : Int) + shape.constructorCount } := by
    simp [Counters.addClass, add_def, Int.add_assoc]
  rw [hadd]
  refine (hmethods.add htypes).mono ?_
  simp [ClassShape.extent]
  omega

theorem Fit.addOutgoing (hk : k.Fit bound) (hits : Nat) :
    Fit (bound + hits) { k with outgoingHits := k.outgoingHits + hits } := by
  have hhits : Fit hits { outgoingHits := (hits : Int) } := by
    refine fit_iff.mpr fun f hf => ?_
    fin_cases hf
    all_goals first | exact ⟨0, rfl, Nat.zero_le _⟩ | exact ⟨_, rfl, Nat.le_refl _⟩
  have hadd : { k with outgoingHits := k.outgoingHits + hits } = k + { outgoingHits := (hits : Int) } := by
    simp [add_def]
  rw [hadd]
  exact hk.add hhits

/-- Collecting a module counts what it exports and declares. -/
theorem fit_collect (m : Module) (exported : Nat) : 
    (collect 0 m exported).Fit (exported + m.declared + outgoingCount m.text.toList) := by
  have himports := List.length_filter_le (fun i : Import => !(i.isRelative || i.isRequire)) m.imports
  have hset : Fit (exported + m.imports.length)
      { exportedCount := (exported : Int),
        externalImports := ((m.imports.filter fun i => !(i.isRelative || i.isRequire)).length : Nat) } := by
    refine fit_iff.mpr fun f hf => ?_
    fin_cases hf
    all_goals
      first | exact ⟨0, rfl, Nat.zero_le _⟩ | exact ⟨_, rfl, Nat.le_add_right _ _⟩ |
        exact ⟨_, rfl, Nat.le_trans himports (Nat.le_add_left _ _)⟩
  have hclasses := hset.foldl (g := ClassShape.extent) (fun k bound shape hk => hk.addClass shape) m.classes
  have hfunctions := hclasses.foldl (f := fun k f => k.addCallable f.exported f.body) (g := fun _ => 1)
    (fun k bound f hk => hk.addCallable f.exported f.body) m.functions
  refine (hfunctions.addOutgoing (outgoingCount m.text.toList)).mono ?_
  simp [Module.declared]
  omega

theorem fit_ofClass (kind : CallClass) : (ofClass kind).Fit 1 := by
  refine fit_iff.mpr fun f hf => ?_
  cases kind <;> fin_cases hf
  all_goals first | exact ⟨0, rfl, Nat.zero_le _⟩ | exact ⟨1, rfl, Nat.le_refl _⟩

theorem fit_credit : credit.Fit 1 := by
  refine fit_iff.mpr fun f hf => ?_
  fin_cases hf
  all_goals first | exact ⟨0, rfl, Nat.zero_le _⟩ | exact ⟨1, rfl, Nat.le_refl _⟩

theorem fit_share (caller : String) (call : CallClass × Option String) (path : String) :
    (share caller call path).Fit 2 := by
  unfold share
  have hzero : Fit 1 0 := fit_zero.mono (Nat.zero_le 1)
  have hown : Fit 1 (if path = caller then ofClass call.1 else 0) := by
    split
    · exact fit_ofClass _
    · exact hzero
  have hcredit : Fit 1 (if call = (.crossModule, some path) then credit else 0) := by
    split
    · exact fit_credit
    · exact hzero
  exact hown.add hcredit

end Counters

namespace Corpus
variable {c : Corpus}

theorem fit_callShare (names : String → List String) (m : Module) (path : String) :
    (c.callShare names m path).Fit (2 * m.calls.length) := by
  have hsum := Counters.fit_sum_map (f := fun call =>
    Counters.share m.path (classify m.path (c.targetWith names m call)) path) (g := fun _ => 2)
    (fun call => Counters.fit_share _ _ _) m.calls
  refine hsum.mono (Nat.le_of_eq ?_)
  simp [Nat.mul_comm]

/-- A name that is exported is listed in some module. -/
theorem listed_of_mem_exportsFrom {visiting : List String} {path name : String}
    (h : name ∈ c.exportsFrom visiting path) : ∃ m ∈ c.toList, name ∈ m.listed := by
  induction hsize : c.unvisited visiting using Nat.strong_induction_on generalizing visiting path name with
  | h size ih =>
    rw [exportsFrom_eq] at h
    cases hm : c.get? path with
    | none =>
      rw [hm] at h
      cases h
    | some m =>
      have hmem : m ∈ c.toList := List.mem_map.mpr ⟨_, Table.mem_of_get? hm, rfl⟩
      rw [hm] at h
      dsimp only at h
      split at h
      · cases h
      rename_i hvisiting
      rcases List.mem_append.mp h with hown | hover
      · exact ⟨m, hmem, List.mem_append_left _ hown⟩
      obtain ⟨r, hr, hname⟩ := List.mem_flatMap.mp hover
      have hlisted : name ∈ r.listed → ∃ m ∈ c.toList, name ∈ m.listed := fun hin =>
        ⟨m, hmem, List.mem_append_right _ (List.mem_flatMap.mpr ⟨r, hr, hin⟩)⟩
      unfold takenOver at hname
      split at hname
      · rename_i whole _ hwhole
        refine hlisted (List.mem_append_left _ ?_)
        rw [List.mem_singleton.mp hname]
        exact Option.mem_toList.mpr (Option.filter_eq_some_iff.mp hwhole).1
      · rename_i names _ hnames
        refine hlisted (List.mem_append_right _ ?_)
        rw [hnames]
        exact hname
      · split at hname
        · cases hname
        · have hless := c.unvisited_cons_lt (Table.mem_keys_of_get? hm) hvisiting
          exact ih _ (hsize ▸ hless) (mem_starNames.mp hname).2 rfl

theorem length_exportedNames_le (path : String) :
    (c.exportedNames path).length ≤ (c.toList.map (·.listed.length)).sum := by
  have hsubset : c.exportedNames path ⊆ c.toList.flatMap Module.listed := by
    intro name hname
    obtain ⟨m, hm, hlisted⟩ := listed_of_mem_exportsFrom (mem_sortedNames.mp hname)
    exact List.mem_flatMap.mpr ⟨m, hm, hlisted⟩
  refine Nat.le_trans ((nodup_sortedNames _).subperm hsubset).length_le (Nat.le_of_eq ?_)
  rw [List.length_flatMap]

theorem filter_path_eq {ms : List Module} (hnodup : (ms.map (·.path)).Nodup) {m : Module} (hm : m ∈ ms) :
    ms.filter (·.path = m.path) = [m] := by
  induction ms with
  | nil => cases hm
  | cons x ms ih =>
    rw [List.map_cons, List.nodup_cons] at hnodup
    rcases List.mem_cons.mp hm with rfl | hm
    · have hothers : ms.filter (·.path = m.path) = [] := by
        refine List.filter_eq_nil_iff.mpr fun x hx hpath => hnodup.1 (List.mem_map.mpr ⟨x, hx, ?_⟩)
        exact of_decide_eq_true hpath
      rw [List.filter_cons_of_pos (by simp), hothers]
    · have hne : x.path ≠ m.path := fun h => hnodup.1 (List.mem_map.mpr ⟨m, hm, h.symm⟩)
      rw [List.filter_cons_of_neg (by simpa using hne)]
      exact ih hnodup.2 hm

/-- No counter of a corpus is negative or above the extents of its modules. -/
theorem fit_counters (hc : c.Keyed) {m : Module} (hm : m ∈ c.toList) :
    ∃ k, (c.counters (scopeResolver c)).get? m.path = some k ∧ k.Fit (c.toList.map Module.extent).sum := by
  have hexported := c.length_exportedNames_le m.path
  have hle : ∀ f : Module → Nat, f m ≤ (c.toList.map f).sum := fun f =>
    List.single_le_sum (fun _ _ => Nat.zero_le _) _ (List.mem_map.mpr ⟨m, hm, rfl⟩)
  have hdeclared := hle (·.declared)
  have htext := hle fun m => outgoingCount m.text.toList
  have hcalls := Counters.fit_sum_map (fun m' => c.fit_callShare c.exportedNames m' m.path) c.toList
  have hextent : (c.toList.map Module.extent).sum = (c.toList.map (·.listed.length)).sum +
      (c.toList.map (·.declared)).sum + (c.toList.map fun m => outgoingCount m.text.toList).sum +
      (c.toList.map (2 * ·.calls.length)).sum := by
    unfold Module.extent
    rw [List.sum_map_add, List.sum_map_add, List.sum_map_add]
  refine ⟨_, get?_counters hc (hc.mem_paths hm), ?_⟩
  rw [filter_path_eq (hc.paths_eq ▸ hc.nodup) hm, List.foldl_cons, List.foldl_nil, hextent]
  exact ((Counters.fit_collect m _).add hcalls).mono (by omega)

end Corpus

section Trees

theorem length_le_sizes (ns : List Node) : ns.length ≤ Node.sizes ns := by
  induction ns with
  | nil => exact Nat.le_refl 0
  | cons n rest ih =>
    have hpos := n.size_pos
    rw [List.length_cons, Node.sizes_cons]
    omega

theorem length_flatMap_le {α : Type} {f : Node → List α} {ns : List Node} (h : ∀ n ∈ ns, (f n).length ≤ n.size) :
    (ns.flatMap f).length ≤ Node.sizes ns := by
  induction ns with
  | nil => exact Nat.le_refl 0
  | cons n rest ih =>
    obtain ⟨hn, hrest⟩ := List.forall_mem_cons.mp h
    rw [List.flatMap_cons, List.length_append, Node.sizes_cons]
    exact Nat.add_le_add hn (ih hrest)

theorem length_placesOf_le (around : List Node) (n : Node) : (placesOf around n).length ≤ n.size := by
  induction n using Node.inductionOn generalizing around with
  | h n ih =>
    have hinner : (n.namedChildren.flatMap (placesOf (n :: around))).length ≤ Node.sizes n.namedChildren :=
      length_flatMap_le fun c hc => ih c (List.mem_of_mem_filter hc) (n :: around)
    have hsizes := n.sizes_namedChildren_lt
    rw [placesOf_eq, List.length_cons]
    omega

theorem sizes_patternParts_le (n : Node) : Node.sizes (patternParts n) ≤ Node.sizes n.children := by
  have hchild : ∀ name, Node.sizes (n.child? name).toList ≤ Node.sizes n.children := by
    intro name
    cases hc : n.child? name with
    | none => exact Nat.zero_le _
    | some c =>
      have hle := Node.size_le_of_mem (List.mem_of_find?_eq_some hc)
      simpa using hle
  unfold patternParts
  split
  · exact hchild _
  split
  · exact hchild _
  split
  · exact hchild _
  split
  · exact Node.sizes_filter_le _ _
  · exact Nat.zero_le _

theorem length_patternNames_le (src : Source) (n : Node) : (patternNames src n).length ≤ n.size := by
  induction n using Node.inductionOn with
  | h n ih =>
    rw [patternNames_eq, Node.size_eq]
    split
    · exact Nat.le_add_right 1 _
    · have hparts := length_flatMap_le fun c hc => ih c ((mem_patternParts_iff.mp hc).mem_children)
      have hle := sizes_patternParts_le n
      omega

theorem length_declaredNames_le (src : Source) (n : Node) : (declaredNames src n).length ≤ n.size := by
  induction n using Node.inductionOn with
  | h n ih =>
    have hsizes := n.sizes_namedChildren_lt
    rw [declaredNames_eq]
    split
    · cases hc : n.namedChildren.head? with
      | none => exact Nat.zero_le _
      | some c =>
        have hmem := List.mem_of_mem_head? hc
        have hle := ih c (List.mem_of_mem_filter hmem)
        have hsize := Node.size_le_of_mem hmem
        simp only [Option.elim_some]
        omega
    split
    · have hpos := n.size_pos
      cases n.child? "name" with
      | none => exact Nat.zero_le _
      | some name => exact hpos
    split
    · refine Nat.le_trans (length_flatMap_le fun d _ => ?_)
        (Nat.le_trans (Node.sizes_filter_le _ _) (Nat.le_of_lt hsizes))
      cases hc : d.child? "name" with
      | none => exact Nat.zero_le _
      | some c => exact Nat.le_trans (length_patternNames_le src c) (Nat.le_of_lt (Node.size_child?_lt hc))
    · exact Nat.zero_le _

theorem length_put_le {α : Type} (t : Table α) (name : String) (value : α) : (t.put name value).length ≤ t.length + 1 := by
  have hkeys := congrArg List.length (Table.keys_put t name value)
  unfold Table.keys at hkeys
  rw [List.length_map] at hkeys
  rw [hkeys]
  split
  · simp
  · simp

theorem length_foldl_put_le {α β : Type} (key : β → String) (value : β → α) (xs : List β) (t : Table α) :
    (xs.foldl (fun t x => t.put (key x) (value x)) t).length ≤ t.length + xs.length := by
  induction xs generalizing t with
  | nil => exact Nat.le_refl _
  | cons x xs ih =>
    have hput := length_put_le t (key x) (value x)
    have hrest := ih (t.put (key x) (value x))
    rw [List.foldl_cons, List.length_cons]
    omega

theorem length_specifierNames_le (src : Source) (kind : String) (n : Node) :
    (specifierNames src kind n).length ≤ n.size := by
  have hsizes := n.sizes_namedChildren_lt
  have hfilter := List.length_filter_le (fun c : Node => c.kind == kind) n.namedChildren
  have hlength := length_le_sizes n.namedChildren
  unfold specifierNames
  refine Nat.le_trans (length_foldl_put_le _ _ _ _) ?_
  rw [List.length_nil]
  omega

namespace ClassShape

theorem extent_addMember (src : Source) (shape : ClassShape) (n : Node) :
    (shape.addMember src n).extent ≤ shape.extent + 1 := by
  unfold addMember
  dsimp only
  repeat' split
  all_goals simp only [extent, List.length_append, List.length_singleton]
  all_goals omega

theorem extent_classShape (src : Source) (scope : Scope) (n : Node) : (classShape src scope n).extent ≤ n.size := by
  have hfold : ∀ (ns : List Node) (shape : ClassShape), (ns.foldl (addMember src) shape).extent ≤ shape.extent + ns.length := by
    intro ns
    induction ns with
    | nil => exact fun _ => Nat.le_refl _
    | cons n ns ih =>
      intro shape
      have hn := extent_addMember src shape n
      have hrest := ih (shape.addMember src n)
      rw [List.foldl_cons, List.length_cons]
      omega
  unfold classShape
  dsimp only
  split
  · exact Nat.zero_le _
  · rename_i body hbody
    have hsize := Node.size_child?_lt hbody
    have hmembers := body.sizes_namedChildren_lt
    have hlength := length_le_sizes body.namedChildren
    refine Nat.le_trans (hfold _ _) ?_
    simp only [extent, List.length_nil]
    omega

end ClassShape

theorem size_namedChild?_lt {n c : Node} {kind : String} (h : n.namedChild? kind = some c) : c.size < n.size :=
  Nat.lt_of_le_of_lt (Node.size_le_of_mem (List.mem_of_find?_eq_some h)) n.sizes_namedChildren_lt

namespace Module

theorem length_listed (m : Module) :
    m.listed.length = m.exports.length + (m.reexports.flatMap Reexport.listed).length := by
  rw [listed, List.length_append, Table.keys, List.length_map]

theorem length_listed_reexport (m : Module) (r : Reexport) :
    { m with reexports := m.reexports ++ [r] }.listed.length = m.listed.length + r.listed.length := by
  rw [length_listed, length_listed, List.flatMap_append, List.length_append]
  simp [Nat.add_assoc]

/-- An export statement lists no more names than it has nodes. -/
theorem length_listed_addExport (src : Source) (m : Module) (n : Node) :
    (m.addExport src n).listed.length ≤ m.listed.length + n.size := by
  have hpos := n.size_pos
  have hput : ∀ names : Table String, names.length ≤ n.size →
      { m with exports := names.foldl (fun t (p : String × String) => t.put p.1 (some p.2)) m.exports }.listed.length ≤
        m.listed.length + n.size := by
    intro names hnames
    have hlength := length_foldl_put_le (fun p : String × String => p.1) (fun p => some p.2) names m.exports
    rw [length_listed, length_listed]
    dsimp only
    omega
  have hdefault : ∀ inner : Option String, { m with exports := m.exports.put "default" inner }.listed.length ≤
      m.listed.length + n.size := by
    intro inner
    have hlength := length_put_le m.exports "default" inner
    rw [length_listed, length_listed]
    dsimp only
    omega
  unfold addExport
  split
  · dsimp only
    split
    · rename_i _ clause hclause
      have hnames := length_specifierNames_le src "export_specifier" clause
      have hsize := size_namedChild?_lt hclause
      rw [length_listed_reexport]
      simp only [Reexport.listed, Table.keys, Option.toList_none, List.nil_append, Option.map_some, Option.getD_some,
        List.length_map]
      omega
    · rw [length_listed_reexport]
      simp only [Reexport.listed, Option.toList_some, Option.map_none, Option.getD_none, List.append_nil,
        List.length_singleton]
      omega
    · split
      · rw [length_listed_reexport]
        simp [Reexport.listed]
      · omega
  · split
    · exact hdefault _
    · refine hput _ ?_
      split
      · rename_i _ d hd
        rw [List.length_map]
        exact Nat.le_trans (length_declaredNames_le src d) (Nat.le_of_lt (Node.size_child?_lt hd))
      · rename_i clause _ hclause
        exact Nat.le_trans (length_specifierNames_le src _ clause) (Nat.le_of_lt (size_namedChild?_lt hclause))
      · exact Nat.zero_le _

def inventory (m : Module) : Nat := m.listed.length + m.declared

theorem inventory_addStatement (src : Source) (m : Module) (n : Node) :
    (m.addStatement src n).inventory ≤ m.inventory + n.size := by
  have hpos := n.size_pos
  unfold addStatement
  split
  · split
    · simp only [inventory, declared, listed, List.length_append, List.length_singleton]
      omega
    · omega
  split
  · have hlisted := length_listed_addExport src m n
    have hdeclared : (m.addExport src n).declared = m.declared := by
      unfold addExport
      repeat' split
      all_goals rfl
    unfold inventory
    omega
  · omega

theorem inventory_addTop (src : Source) (exportedLocals : List String) (m : Module) (child : Node) :
    (m.addTop src exportedLocals child).inventory ≤ m.inventory + child.size := by
  have hpos := child.size_pos
  have hfunction : ∀ f : TopFunction, { m with functions := m.functions ++ [f] }.inventory ≤ m.inventory + child.size := by
    intro f
    simp only [inventory, declared, listed, List.length_append, List.length_singleton]
    omega
  have hclass : ∀ n : Node, n.size ≤ child.size →
      { m with classes := m.classes ++ [classShape src [m.frame] n] }.inventory ≤ m.inventory + child.size := by
    intro n hn
    have hextent := ClassShape.extent_classShape src [m.frame] n
    simp only [inventory, declared, listed, List.map_append, List.map_cons, List.map_nil, List.sum_append,
      List.sum_cons, List.sum_nil]
    omega
  have hinside : ∀ n, (if child.kind == "export_statement" then child.child? "declaration" <|> child.child? "value"
      else some child) = some n → n.size ≤ child.size := by
    intro n hn
    split at hn
    · cases hd : child.child? "declaration" with
      | some d =>
        rw [hd] at hn
        cases hn
        exact Nat.le_of_lt (Node.size_child?_lt hd)
      | none =>
        rw [hd] at hn
        exact Nat.le_of_lt (Node.size_child?_lt hn)
    · exact Nat.le_of_eq (congrArg Node.size (Option.some.inj hn).symm)
  unfold addTop
  dsimp only
  split
  · omega
  · rename_i n hn
    split
    · exact hfunction _
    split
    · exact hfunction _
    split
    · exact hclass n (hinside n hn)
    · omega

theorem inventory_foldl {f : Module → Node → Module} (hstep : ∀ m n, (f m n).inventory ≤ m.inventory + n.size)
    (ns : List Node) (m : Module) : (ns.foldl f m).inventory ≤ m.inventory + Node.sizes ns := by
  induction ns generalizing m with
  | nil => exact Nat.le_refl _
  | cons n ns ih =>
    have hn := hstep m n
    have hrest := ih (f m n)
    rw [List.foldl_cons, Node.sizes_cons]
    omega

/-- The path and the text of a module do not change. -/
def SameSource (m m' : Module) : Prop := m'.path = m.path ∧ m'.text = m.text

theorem sameSource_foldl {f : Module → Node → Module} (hstep : ∀ m n, SameSource m (f m n)) (ns : List Node)
    (m : Module) : m.SameSource (ns.foldl f m) := by
  induction ns generalizing m with
  | nil => exact ⟨rfl, rfl⟩
  | cons n ns ih =>
    obtain ⟨hpath, htext⟩ := hstep m n
    obtain ⟨hpaths, htexts⟩ := ih (f m n)
    exact ⟨hpaths.trans hpath, htexts.trans htext⟩

theorem sameSource_addStatement (src : Source) (m : Module) (n : Node) : m.SameSource (m.addStatement src n) := by
  unfold addStatement addExport
  repeat' split
  all_goals exact ⟨rfl, rfl⟩

theorem sameSource_addTop (src : Source) (exportedLocals : List String) (m : Module) (n : Node) :
    m.SameSource (m.addTop src exportedLocals n) := by
  unfold addTop
  dsimp only
  repeat' split
  all_goals exact ⟨rfl, rfl⟩

end Module

theorem outgoingCount_le (cs : List Char) : outgoingCount cs ≤ cs.length := by
  have hgo : ∀ (cs : List Char) (skip : Nat), outgoingCount.go skip cs ≤ cs.length := by
    intro cs
    induction cs with
    | nil => exact fun skip => by simp [outgoingCount.go]
    | cons c cs ih =>
      intro skip
      cases skip with
      | succ skip =>
        have hrest := ih skip
        rw [outgoingCount.go, List.length_cons]
        omega
      | zero =>
        rw [outgoingCount.go, List.length_cons]
        split
        · have hrest := ih (List.length ‹_› - 1)
          omega
        · have hrest := ih 0
          omega
  exact hgo cs 0

theorem source_extract (path text : String) (root : Node) :
    (extract path text root).path = path ∧ (extract path text root).text = text := by
  obtain ⟨hpath, htext⟩ := Module.sameSource_foldl (Module.sameSource_addStatement (.ofString text)) root.namedChildren
    { path, text }
  have htops : ∀ (locals : List String) (m : Module),
      m.SameSource (root.namedChildren.foldl (Module.addTop (.ofString text) locals) m) := fun locals =>
    Module.sameSource_foldl (Module.sameSource_addTop (.ofString text) locals) root.namedChildren
  exact ⟨(htops _ _).1.trans hpath, (htops _ _).2.trans htext⟩

/-- What is counted in a module is bounded by the size of its tree and the length of its text. -/
theorem extent_extract (path text : String) (root : Node) :
    (extract path text root).extent ≤ 4 * root.size + text.length := by
  have hstatements := Module.inventory_foldl (Module.inventory_addStatement (.ofString text)) root.namedChildren
    { path, text }
  have htops : ∀ (locals : List String) (m : Module),
      (root.namedChildren.foldl (Module.addTop (.ofString text) locals) m).inventory ≤
        m.inventory + Node.sizes root.namedChildren := fun locals =>
    Module.inventory_foldl (Module.inventory_addTop (.ofString text) locals) root.namedChildren
  have hinventory : (extract path text root).inventory ≤ 0 + Node.sizes root.namedChildren + Node.sizes root.namedChildren :=
    Nat.le_trans (htops _ _) (Nat.add_le_add_right hstatements _)
  have hsizes := root.sizes_namedChildren_lt
  have hcalls : (extract path text root).calls.length ≤ root.size := by
    rw [calls_extract]
    exact Nat.le_trans (List.length_filterMap_le _ _) (length_placesOf_le [] root)
  have htext : outgoingCount (extract path text root).text.toList ≤ text.length := by
    rw [(source_extract path text root).2, ← String.length_toList]
    exact outgoingCount_le _
  unfold Module.inventory at hinventory
  unfold Module.extent
  omega

end Trees

end CorpusShape
