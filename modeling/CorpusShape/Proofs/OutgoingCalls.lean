import CorpusShape.Proofs.Extents

/-!
# Calls that leave the process

The outgoing literals never overlap, so that counting them from left to right finds every place at which one starts.
The bodies of the functions and methods at the top of a module are parts of its text that have no byte in common,
provided that the nodes of its tree are nested. A body with a literal therefore adds no more to the counter than the
text has literals inside it, and the counter lies between the number of literals and twice that number.
-/
namespace CorpusShape

open Syntax

section Literals

/-- The places of a text at which an outgoing literal starts. -/
def outgoingStarts (cs : List Char) : List Nat :=
  (List.range cs.length).filter fun i => outgoingLiterals.any fun w => w.isPrefixOf (cs.drop i)

theorem isSome_outgoingAt? (cs : List Char) :
    (outgoingAt? cs).isSome = outgoingLiterals.any fun w => w.isPrefixOf cs := by
  rw [outgoingAt?, Bool.eq_iff_iff, List.find?_isSome, List.any_eq_true]

theorem prefix_of_outgoingAt? {w cs : List Char} (h : outgoingAt? cs = some w) : w ∈ outgoingLiterals ∧ w <+: cs := by
  unfold outgoingAt? at h
  have hstarts := List.find?_some h
  exact ⟨List.mem_of_find?_eq_some h, List.isPrefixOf_iff_prefix.mp hstarts⟩

theorem length_outgoingStarts_cons (c : Char) (rest : List Char) :
    (outgoingStarts (c :: rest)).length =
      (if (outgoingAt? (c :: rest)).isSome then 1 else 0) + (outgoingStarts rest).length := by
  rw [isSome_outgoingAt?, outgoingStarts, List.length_cons, List.range_succ_eq_map, List.filter_cons, List.filter_map,
    List.drop_zero]
  split
  · rw [List.length_cons, List.length_map, Nat.add_comm]
    rfl
  · rw [List.length_map, Nat.zero_add]
    rfl

/-- Inside a literal none starts: where one is cut off it fits the start of none, and none fits into what is left. -/
theorem outgoingLiterals_apart : ∀ w ∈ outgoingLiterals, ∀ v ∈ outgoingLiterals, ∀ i < w.length, 0 < i →
    (v.isPrefixOf (w.drop i) || (w.drop i).isPrefixOf v) = false := by
  decide

theorem outgoingAt?_drop_inside {w cs : List Char} (hw : w ∈ outgoingLiterals) (hcs : w <+: cs) {i : Nat}
    (hpos : 0 < i) (hi : i < w.length) : outgoingAt? (cs.drop i) = none := by
  apply List.find?_eq_none.mpr
  intro v hv hstarts
  obtain ⟨hinside, hbeyond⟩ := Bool.or_eq_false_iff.mp (outgoingLiterals_apart w hw v hv i hi hpos)
  rcases List.prefix_or_prefix_of_prefix (List.isPrefixOf_iff_prefix.mp hstarts) (hcs.drop i) with hv | hv
  · exact Bool.false_ne_true (hinside.symm.trans (List.isPrefixOf_iff_prefix.mpr hv))
  · exact Bool.false_ne_true (hbeyond.symm.trans (List.isPrefixOf_iff_prefix.mpr hv))

/-- Counting that skips places at which nothing starts misses nothing. -/
theorem outgoingCount_go_eq {cs : List Char} {skip : Nat} (hskip : ∀ i < skip, outgoingAt? (cs.drop i) = none) :
    outgoingCount.go skip cs = (outgoingStarts cs).length := by
  induction cs generalizing skip with
  | nil => rw [outgoingCount.go]; rfl
  | cons c rest ih =>
    rw [length_outgoingStarts_cons]
    cases skip with
    | succ skip =>
      have hfirst : outgoingAt? (c :: rest) = none := hskip 0 (Nat.succ_pos skip)
      have hrest : ∀ i < skip, outgoingAt? (rest.drop i) = none := fun i hi => hskip (i + 1) (Nat.succ_lt_succ hi)
      rw [outgoingCount.go, ih hrest, hfirst]
      simp
    | zero =>
      rw [outgoingCount.go]
      cases hfound : outgoingAt? (c :: rest) with
      | none =>
        dsimp only
        rw [ih fun i hi => absurd hi (Nat.not_lt_zero i)]
        simp
      | some w =>
        dsimp only
        obtain ⟨hw, hstarts⟩ := prefix_of_outgoingAt? hfound
        rw [ih fun i hi => outgoingAt?_drop_inside hw hstarts (Nat.succ_pos i) (by omega)]
        simp

theorem outgoingCount_eq (cs : List Char) : outgoingCount cs = (outgoingStarts cs).length :=
  outgoingCount_go_eq fun i hi => absurd hi (Nat.not_lt_zero i)

/-- Nothing starts anywhere exactly if no literal occurs. -/
theorem length_outgoingStarts_eq_zero_iff {cs : List Char} :
    (outgoingStarts cs).length = 0 ↔ ∀ w ∈ outgoingLiterals, ¬w <:+: cs := by
  have hlong : ∀ w ∈ outgoingLiterals, 0 < w.length := by decide
  rw [List.length_eq_zero_iff, outgoingStarts, List.filter_eq_nil_iff]
  simp only [List.mem_range, List.any_eq_true, List.isPrefixOf_iff_prefix, not_exists, not_and]
  constructor
  · rintro h w hw ⟨s, t, rfl⟩
    refine h s.length ?_ w hw ?_
    · have hpos := hlong w hw
      simp only [List.length_append]
      omega
    · rw [List.append_assoc, List.drop_left]
      exact List.prefix_append w t
  · intro h i _ w hw hstarts
    exact h w hw (hstarts.isInfix.trans (List.drop_suffix i cs).isInfix)

end Literals

section Offsets

/-- The byte offsets at which an outgoing literal starts, the text starting at the byte `at_`. -/
def outgoingOffsets : Nat → List Char → List Nat
  | _, [] => []
  | at_, c :: rest =>
    if (outgoingAt? (c :: rest)).isSome then at_ :: outgoingOffsets (at_ + c.utf8Size) rest
    else outgoingOffsets (at_ + c.utf8Size) rest

theorem length_outgoingOffsets (at_ : Nat) (cs : List Char) :
    (outgoingOffsets at_ cs).length = (outgoingStarts cs).length := by
  induction cs generalizing at_ with
  | nil => rfl
  | cons c rest ih =>
    rw [outgoingOffsets, length_outgoingStarts_cons]
    split
    · rw [List.length_cons, ih, Nat.add_comm]
    · rw [ih, Nat.zero_add]

theorem charsBetween_isPrefix {start stop at_ : Nat} (h : start ≤ at_) (cs : List Char) :
    Source.charsBetween start stop at_ cs <+: cs := by
  induction cs generalizing at_ with
  | nil => exact List.prefix_rfl
  | cons c rest ih =>
    rw [Source.charsBetween, if_pos h]
    split
    · exact List.nil_prefix
    · exact List.cons_prefix_cons.mpr ⟨rfl, ih (by omega)⟩

theorem isSome_outgoingAt?_mono {cs ds : List Char} (h : cs <+: ds) (hcs : (outgoingAt? cs).isSome = true) :
    (outgoingAt? ds).isSome = true := by
  rw [isSome_outgoingAt?, List.any_eq_true] at hcs ⊢
  obtain ⟨w, hw, hstarts⟩ := hcs
  exact ⟨w, hw, List.isPrefixOf_iff_prefix.mpr ((List.isPrefixOf_iff_prefix.mp hstarts).trans h)⟩

/-- A literal in a part of a text starts at a byte of that part. -/
theorem exists_offset_of_hasOutgoing {start stop at_ : Nat} {cs : List Char}
    (h : hasOutgoing (Source.charsBetween start stop at_ cs) = true) :
    ∃ o ∈ outgoingOffsets at_ cs, start ≤ o ∧ o < stop := by
  induction cs generalizing at_ with
  | nil => cases h
  | cons c rest ih =>
    have hlater : ∀ o ∈ outgoingOffsets (at_ + c.utf8Size) rest, o ∈ outgoingOffsets at_ (c :: rest) := by
      intro o ho
      rw [outgoingOffsets]
      split
      · exact List.mem_cons_of_mem _ ho
      · exact ho
    have hrest : hasOutgoing (Source.charsBetween start stop (at_ + c.utf8Size) rest) = true →
        ∃ o ∈ outgoingOffsets at_ (c :: rest), start ≤ o ∧ o < stop := by
      intro hin
      obtain ⟨o, ho, hrange⟩ := ih hin
      exact ⟨o, hlater o ho, hrange⟩
    rw [Source.charsBetween] at h
    split at h
    · cases h
    rename_i hstop
    split at h
    · rename_i hstart
      rw [hasOutgoing, Bool.or_eq_true] at h
      rcases h with hhere | hin
      · have hstarts : c :: Source.charsBetween start stop (at_ + c.utf8Size) rest <+: c :: rest :=
          List.cons_prefix_cons.mpr ⟨rfl, charsBetween_isPrefix (by omega) rest⟩
        refine ⟨at_, ?_, hstart, by omega⟩
        rw [outgoingOffsets, if_pos (isSome_outgoingAt?_mono hstarts hhere)]
        exact List.mem_cons_self
      · exact hrest hin
    · exact hrest h

end Offsets

section Ranges

/-- The byte belongs to the node. -/
def Syntax.Node.Covers (n : Node) (offset : Nat) : Prop := n.start ≤ offset ∧ offset < n.stop

instance (n : Node) (offset : Nat) : Decidable (n.Covers offset) :=
  inferInstanceAs (Decidable (n.start ≤ offset ∧ offset < n.stop))

/-- At every depth the bytes of a child are bytes of its parent, and no byte belongs to two children. -/
inductive Syntax.Node.Nested : Node → Prop
  | intro {n : Node} : (∀ c ∈ n.children, ∀ o, c.Covers o → n.Covers o) →
      n.children.Pairwise (fun c d => ∀ o, c.Covers o → ¬d.Covers o) → (∀ c ∈ n.children, Nested c) → Nested n

/-- Children that lie inside their parent one after the other are nested in it. -/
theorem Syntax.Node.Nested.of_ranges {n : Node} (hinside : ∀ c ∈ n.children, n.start ≤ c.start ∧ c.stop ≤ n.stop)
    (horder : n.children.Pairwise fun c d => c.stop ≤ d.start) (hchildren : ∀ c ∈ n.children, c.Nested) : n.Nested := by
  refine .intro ?_ (horder.imp ?_) hchildren
  · intro c hc o ho
    have hc := hinside c hc
    unfold Covers at ho ⊢
    omega
  · intro c d hcd o hc hd
    unfold Covers at hc hd
    omega

def Syntax.Node.hits (offsets : List Nat) (n : Node) : Nat := offsets.countP fun o => n.Covers o

variable {offsets : List Nat} {n c : Node}

theorem countP_add_countP_le {p q r : Nat → Prop} [DecidablePred p] [DecidablePred q] [DecidablePred r]
    (hq : ∀ o, q o → p o) (hr : ∀ o, r o → p o) (hqr : ∀ o, q o → ¬r o) (offsets : List Nat) :
    offsets.countP (fun o => q o) + offsets.countP (fun o => r o) ≤ offsets.countP (fun o => p o) := by
  induction offsets with
  | nil => simp
  | cons o offsets ih =>
    have hqo := hq o
    have hro := hr o
    have hqro := hqr o
    simp only [List.countP_cons, decide_eq_true_eq]
    split <;> split <;> split <;> first | omega | tauto

/-- Nodes without a common byte have together no more of the offsets than what they all lie in. -/
theorem sum_hits_le {ns : List Node} (h : ns.Pairwise fun c d => ∀ o, c.Covers o → ¬d.Covers o) {p : Nat → Prop}
    [DecidablePred p] (hp : ∀ c ∈ ns, ∀ o, c.Covers o → p o) :
    (ns.map (Node.hits offsets)).sum ≤ offsets.countP fun o => p o := by
  induction ns generalizing p with
  | nil => exact Nat.zero_le _
  | cons c ns ih =>
    obtain ⟨hhead, htail⟩ := List.pairwise_cons.mp h
    obtain ⟨hc, hns⟩ := List.forall_mem_cons.mp hp
    -- The others lie in what is left without the first.
    have hrest := ih htail (p := fun o => p o ∧ ¬c.Covers o) fun d hd o ho =>
      ⟨hns d hd o ho, fun hco => hhead d hd o hco ho⟩
    have hsplit := countP_add_countP_le (p := p) (q := c.Covers) (r := fun o => p o ∧ ¬c.Covers o) hc
      (fun o ho => ho.1) (fun o hco ho => ho.2 hco) offsets
    rw [List.map_cons, List.sum_cons]
    exact Nat.le_trans (Nat.add_le_add_left hrest _) hsplit

theorem Syntax.Node.Nested.child (h : n.Nested) (hc : c ∈ n.children) : c.Nested := by
  cases h with
  | intro _ _ hinside => exact hinside c hc

theorem Syntax.Node.Nested.hits_le (h : n.Nested) (hc : c ∈ n.children) : c.hits offsets ≤ n.hits offsets := by
  cases h with
  | intro hcovers =>
    apply List.countP_mono_left
    intro o _ ho
    exact decide_eq_true (hcovers c hc o (of_decide_eq_true ho))

theorem Syntax.Node.Nested.sum_namedChildren_le (h : n.Nested) :
    (n.namedChildren.map (Node.hits offsets)).sum ≤ n.hits offsets := by
  cases h with
  | intro hcovers hapart =>
    exact sum_hits_le (hapart.sublist List.filter_sublist) fun c hc => hcovers c (List.mem_of_mem_filter hc)

end Ranges

section Bodies

/-- The number of the methods of a class in whose bodies a literal occurs. -/
def ClassShape.outgoingBodies (shape : ClassShape) : Nat := shape.methods.countP fun m => hasOutgoing m.body.toList

def Module.outgoingBodies (m : Module) : Nat :=
  (m.classes.map ClassShape.outgoingBodies).sum + m.functions.countP fun f => hasOutgoing f.body.toList

namespace Counters

theorem outgoingHits_addCallable (k : Counters) (isPublic : Bool) (body : String) :
    (k.addCallable isPublic body).outgoingHits = k.outgoingHits + (if hasOutgoing body.toList then 1 else 0 : Nat) := by
  simp only [addCallable, one]
  split
  · rfl
  · rfl

theorem outgoingHits_foldl {α : Type} {f : Counters → α → Counters} {g : α → Nat}
    (hstep : ∀ k x, (f k x).outgoingHits = k.outgoingHits + g x) (xs : List α) (k : Counters) :
    (xs.foldl f k).outgoingHits = k.outgoingHits + (xs.map g).sum := by
  induction xs generalizing k with
  | nil => simp
  | cons x xs ih =>
    rw [List.foldl_cons, ih, hstep, List.map_cons, List.sum_cons]
    omega

theorem sum_indicator_eq_countP {α : Type} (p : α → Bool) (xs : List α) :
    (xs.map fun x => if p x then 1 else 0).sum = xs.countP p := by
  induction xs with
  | nil => rfl
  | cons x xs ih =>
    rw [List.map_cons, List.sum_cons, List.countP_cons, ih, Nat.add_comm]

theorem outgoingHits_addClass (k : Counters) (shape : ClassShape) :
    (k.addClass shape).outgoingHits = k.outgoingHits + shape.outgoingBodies := by
  rw [ClassShape.outgoingBodies, ← sum_indicator_eq_countP]
  exact outgoingHits_foldl (fun k m => outgoingHits_addCallable k m.isPublic m.body) shape.methods k

/-- The counter is the number of bodies with a literal and the number of literals in the text. -/
theorem outgoingHits_collect (m : Module) (exported : Nat) :
    (collect {} m exported).outgoingHits = m.outgoingBodies + (outgoingStarts m.text.toList).length := by
  have hclasses := outgoingHits_foldl outgoingHits_addClass m.classes
  have hfunctions := outgoingHits_foldl (fun k (f : TopFunction) => outgoingHits_addCallable k f.exported f.body)
    m.functions
  unfold collect
  dsimp only
  rw [hfunctions, hclasses, sum_indicator_eq_countP, outgoingCount_eq, Module.outgoingBodies]
  simp

end Counters

variable (src : Source) {n c : Node}

theorem one_le_hits {src : Source} (h : hasOutgoing (src.textOf n).toList = true) :
    1 ≤ n.hits (outgoingOffsets 0 src.chars) := by
  rw [Source.textOf, Source.slice, String.toList_ofList] at h
  obtain ⟨o, ho, hrange⟩ := exists_offset_of_hasOutgoing h
  exact List.countP_pos_iff.mpr ⟨o, ho, decide_eq_true hrange⟩

/-- The text of a child counts as a body with a literal only if a literal starts in the node. -/
theorem body_le_hits (h : n.Nested) (name : String) :
    (if hasOutgoing (src.textOf? (n.child? name)).toList then 1 else 0) ≤ n.hits (outgoingOffsets 0 src.chars) := by
  split
  · rename_i hbody
    cases hc : n.child? name with
    | none =>
      rw [hc] at hbody
      cases hbody
    | some c =>
      rw [hc] at hbody
      exact Nat.le_trans (one_le_hits hbody) (h.hits_le (List.mem_of_find?_eq_some hc))
  · exact Nat.zero_le _

theorem ClassShape.outgoingBodies_addMember (shape : ClassShape) (h : n.Nested) :
    (shape.addMember src n).outgoingBodies ≤ shape.outgoingBodies + n.hits (outgoingOffsets 0 src.chars) := by
  have hbody := body_le_hits src h "body"
  unfold addMember
  dsimp only
  repeat' split
  all_goals simp only [outgoingBodies, List.countP_append, List.countP_singleton]
  all_goals omega

theorem ClassShape.outgoingBodies_foldl {ns : List Node} (h : ∀ c ∈ ns, c.Nested) (shape : ClassShape) :
    (ns.foldl (addMember src) shape).outgoingBodies ≤
      shape.outgoingBodies + (ns.map (Node.hits (outgoingOffsets 0 src.chars))).sum := by
  induction ns generalizing shape with
  | nil => exact Nat.le_refl _
  | cons c ns ih =>
    obtain ⟨hc, hns⟩ := List.forall_mem_cons.mp h
    have hmember := outgoingBodies_addMember src shape hc
    have hrest := ih hns (shape.addMember src c)
    rw [List.foldl_cons, List.map_cons, List.sum_cons]
    omega

theorem ClassShape.outgoingBodies_classShape (scope : Scope) (h : n.Nested) :
    (classShape src scope n).outgoingBodies ≤ n.hits (outgoingOffsets 0 src.chars) := by
  unfold classShape
  dsimp only
  split
  · exact Nat.zero_le _
  · rename_i body hbody
    have hmem := List.mem_of_find?_eq_some hbody
    have hnested := h.child hmem
    apply Nat.le_trans (outgoingBodies_foldl src (fun c hc => hnested.child (List.mem_of_mem_filter hc)) _)
    simp only [outgoingBodies, List.countP_nil, Nat.zero_add]
    exact Nat.le_trans hnested.sum_namedChildren_le (h.hits_le hmem)

namespace Module

theorem outgoingBodies_class (m : Module) (shape : ClassShape) :
    { m with classes := m.classes ++ [shape] }.outgoingBodies = m.outgoingBodies + shape.outgoingBodies := by
  simp only [outgoingBodies, List.map_append, List.map_singleton, List.sum_append, List.sum_singleton]
  omega

theorem outgoingBodies_function (m : Module) (f : TopFunction) :
    { m with functions := m.functions ++ [f] }.outgoingBodies =
      m.outgoingBodies + if hasOutgoing f.body.toList then 1 else 0 := by
  simp only [outgoingBodies, List.countP_append, List.countP_singleton]
  omega

/-- What stands at the top adds no more bodies with literals than literals start in it. -/
theorem outgoingBodies_addTop (locals : List String) (m : Module) (h : n.Nested) :
    (m.addTop src locals n).outgoingBodies ≤ m.outgoingBodies + n.hits (outgoingOffsets 0 src.chars) := by
  have hinside : ∀ c, (if n.kind == "export_statement" then n.child? "declaration" <|> n.child? "value"
      else some n) = some c →
        c.Nested ∧ c.hits (outgoingOffsets 0 src.chars) ≤ n.hits (outgoingOffsets 0 src.chars) := by
    intro c hc
    split at hc
    · have hmem : c ∈ n.children := by
        cases hd : n.child? "declaration" with
        | some d =>
          rw [hd] at hc
          cases hc
          exact List.mem_of_find?_eq_some hd
        | none =>
          rw [hd] at hc
          exact List.mem_of_find?_eq_some hc
      exact ⟨h.child hmem, h.hits_le hmem⟩
    · cases hc
      exact ⟨h, Nat.le_refl _⟩
  unfold addTop
  dsimp only
  split
  · exact Nat.le_add_right _ _
  rename_i c hc
  obtain ⟨hnested, hle⟩ := hinside c hc
  have hbody := body_le_hits src hnested "body"
  split
  · rw [outgoingBodies_function]
    exact Nat.add_le_add_left (Nat.le_trans hbody hle) _
  split
  · rw [outgoingBodies_function]
    exact Nat.add_le_add_left (Nat.le_trans hbody hle) _
  split
  · have hclass := ClassShape.outgoingBodies_classShape src [m.frame] hnested
    rw [outgoingBodies_class]
    omega
  · exact Nat.le_add_right _ _

theorem outgoingBodies_foldl_addTop {ns : List Node} (h : ∀ c ∈ ns, c.Nested) (locals : List String) (m : Module) :
    (ns.foldl (addTop src locals) m).outgoingBodies ≤
      m.outgoingBodies + (ns.map (Node.hits (outgoingOffsets 0 src.chars))).sum := by
  induction ns generalizing m with
  | nil => exact Nat.le_refl _
  | cons c ns ih =>
    obtain ⟨hc, hns⟩ := List.forall_mem_cons.mp h
    have htop := outgoingBodies_addTop src locals m hc
    have hrest := ih hns (m.addTop src locals c)
    rw [List.foldl_cons, List.map_cons, List.sum_cons]
    omega

theorem outgoingBodies_foldl_addStatement (ns : List Node) (m : Module) :
    (ns.foldl (addStatement src) m).outgoingBodies = m.outgoingBodies := by
  induction ns generalizing m with
  | nil => rfl
  | cons c ns ih =>
    have hstep : (m.addStatement src c).outgoingBodies = m.outgoingBodies := by
      unfold addStatement addExport
      repeat' split
      all_goals rfl
    rw [List.foldl_cons, ih, hstep]

end Module

/-- The bodies with literals are no more than the literals of the text. -/
theorem outgoingBodies_extract (path text : String) {root : Node} (h : root.Nested) :
    (extract path text root).outgoingBodies ≤ (outgoingStarts text.toList).length := by
  have hchildren : ∀ c ∈ root.namedChildren, c.Nested := fun c hc => h.child (List.mem_of_mem_filter hc)
  have hstatements := Module.outgoingBodies_foldl_addStatement (.ofString text) root.namedChildren { path, text }
  have hempty : Module.outgoingBodies { path, text } = 0 := rfl
  refine Nat.le_trans (Module.outgoingBodies_foldl_addTop (.ofString text) hchildren _ _) ?_
  calc Module.outgoingBodies _ + (root.namedChildren.map (Node.hits (outgoingOffsets 0 text.toList))).sum
      ≤ 0 + root.hits (outgoingOffsets 0 text.toList) :=
        Nat.add_le_add (Nat.le_of_eq (hstatements.trans hempty)) h.sum_namedChildren_le
    _ ≤ (outgoingOffsets 0 text.toList).length := by
        rw [Nat.zero_add]
        exact List.countP_le_length
    _ = (outgoingStarts text.toList).length := length_outgoingOffsets 0 _

end Bodies

/-- In a module of a tree without faults whose nodes are nested, the search of the text finds every place at which a
literal starts, and the counter of outgoing calls lies between the number of these places and twice that number. It is
zero exactly if no literal occurs. -/
theorem outgoing_counter_bounds {root : Node} (h : root.hasFault = false) (hnested : root.Nested) (path text : String)
    (exported : Nat) :
    let k := (outgoingStarts text.toList).length
    ∃ m, Module.ofTree path text root = .ok m ∧ outgoingCount m.text.toList = k ∧
      (k : Int) ≤ (Counters.collect {} m exported).outgoingHits ∧
      (Counters.collect {} m exported).outgoingHits ≤ 2 * k ∧
      ((Counters.collect {} m exported).outgoingHits = 0 ↔ ∀ w ∈ outgoingLiterals, ¬w <:+: text.toList) := by
  intro k
  have htext := (source_extract path text root).2
  have hbodies : (extract path text root).outgoingBodies ≤ k := outgoingBodies_extract path text hnested
  have hhits := Counters.outgoingHits_collect (extract path text root) exported
  rw [htext] at hhits
  refine ⟨extract path text root, ofTree_eq_ok h path text, ?_, ?_, ?_, ?_⟩
  · rw [htext, outgoingCount_eq]
  · omega
  · omega
  · rw [← length_outgoingStarts_eq_zero_iff]
    omega

/-- The tree of `function f() { fetch(x) } axios.get()`, as far as its functions and names go. -/
def fetchTree : Node :=
  .branch "program" 0 37 [
    .branch "function_declaration" 0 25 [.token "function" 0 8, (Node.leaf "identifier" 9 10).inField "name",
      (Node.leaf "formal_parameters" 10 12).inField "parameters", (Node.leaf "statement_block" 13 25).inField "body"],
    .leaf "expression_statement" 26 37]

theorem nested_fetchTree : fetchTree.Nested := by
  have hleaf : ∀ n : Node, n.children = [] → n.Nested := by
    intro n hn
    apply Node.Nested.of_ranges
    all_goals simp [hn]
  refine .of_ranges (by decide) (by decide) (List.forall_mem_cons.mpr ⟨?_, ?_⟩)
  · refine .of_ranges (by decide) (by decide) fun c hc => hleaf c ?_
    revert c
    simp [Node.branch, Node.token, Node.leaf, Node.inField]
  · exact List.forall_mem_singleton.mpr (hleaf _ rfl)

theorem outgoing_counter_bounds_fetchTree :
    fetchTree.hasFault = false ∧ fetchTree.Nested ∧
      (outgoingStarts "function f() { fetch(x) } axios.get()".toList).length = 2 ∧
      ∃ m, Module.ofTree "a.ts" "function f() { fetch(x) } axios.get()" fetchTree = .ok m ∧
        (Counters.collect {} m 0).outgoingHits ≤ 4 := by
  have h : fetchTree.hasFault = false := by decide
  have hk : (outgoingStarts "function f() { fetch(x) } axios.get()".toList).length = 2 := by decide
  obtain ⟨m, hm, -, -, hupper, -⟩ :=
    outgoing_counter_bounds h nested_fetchTree "a.ts" "function f() { fetch(x) } axios.get()" 0
  rw [hk] at hupper
  exact ⟨h, nested_fetchTree, hk, m, hm, hupper⟩

end CorpusShape
