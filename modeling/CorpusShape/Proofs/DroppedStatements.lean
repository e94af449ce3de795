import CorpusShape.Proofs.LocalNames

/-!
# Trees without one statement of a block

A statement is dropped from a block of a tree; apart from that the two trees differ only in where their nodes stand.
What names, callees and imports are read off the trees is the same. Hoisting finds the same names in both, unless it
looks at the dropped statement. So the frame of a function or of the module binds a name that the statement declares if
hoisting looks at the statement from there, and else binds it as it does without the statement.
-/
namespace CorpusShape

open Syntax

/-- Whether the text of a child is read for the name that it gives. -/
def isNamePart (n c : Node) : Bool :=
  (c.field == some "name" && nameHolderKinds.contains n.kind) ||
  (c.field == some "property" && n.kind == "member_expression") || importKinds.contains n.kind

/-- The second tree is the first without the statement `d` of a block. Nodes that name something keep their texts. -/
inductive Dropped (s₁ s₂ : Source) (d : Node) : Node → Node → Prop
  | here {a b : Node} {left₁ left₂ right₁ right₂ : List Node} : SameHead a b → a.kind = "statement_block" →
      a.children = left₁ ++ d :: right₁ → b.children = left₂ ++ right₂ →
      List.Forall₂ (Alike s₁ s₂) left₁ left₂ → List.Forall₂ (Alike s₁ s₂) right₁ right₂ → Dropped s₁ s₂ d a b
  | child {a b c e : Node} {left₁ left₂ right₁ right₂ : List Node} : SameHead a b →
      (a.kind ∈ nameKinds → s₁.textOf a = s₂.textOf b) →
      a.children = left₁ ++ c :: right₁ → b.children = left₂ ++ e :: right₂ →
      List.Forall₂ (Alike s₁ s₂) left₁ left₂ → List.Forall₂ (Alike s₁ s₂) right₁ right₂ →
      (isNamePart a c = true → s₁.textOf c = s₂.textOf e) → Dropped s₁ s₂ d c e → Dropped s₁ s₂ d a b

/-- The trees are alike, or the second is the first without the statement `d` of a block. -/
def Trimmed (s₁ s₂ : Source) (d a b : Node) : Prop := Alike s₁ s₂ a b ∨ Dropped s₁ s₂ d a b

/-- The lists have related members, apart from `d` in the first. -/
inductive Thinned (R : Node → Node → Prop) (d : Node) : List Node → List Node → Prop
  | nil : Thinned R d [] []
  | cons {a b : Node} {l m : List Node} : R a b → Thinned R d l m → Thinned R d (a :: l) (b :: m)
  | drop {l m : List Node} : Thinned R d l m → Thinned R d (d :: l) m

namespace Thinned
variable {R : Node → Node → Prop} {d : Node} {l m : List Node} {p q : Node → Bool}

theorem of_forall₂ (h : List.Forall₂ R l m) : Thinned R d l m := by
  induction h with
  | nil => exact .nil
  | cons hab _ ih => exact .cons hab ih

theorem of_append {left₁ left₂ right₁ right₂ : List Node} (hleft : List.Forall₂ R left₁ left₂)
    (hright : List.Forall₂ R right₁ right₂) : Thinned R d (left₁ ++ d :: right₁) (left₂ ++ right₂) := by
  induction hleft with
  | nil => exact .drop (of_forall₂ hright)
  | cons hab _ ih => exact .cons hab ih

theorem filter (hpq : ∀ a b, R a b → q b = p a) (h : Thinned R d l m) : Thinned R d (l.filter p) (m.filter q) := by
  induction h with
  | nil => exact .nil
  | @cons a b l m hab _ ih =>
    rw [List.filter_cons, List.filter_cons, hpq a b hab]
    split
    · exact .cons hab ih
    · exact ih
  | @drop l m _ ih =>
    rw [List.filter_cons]
    split
    · exact .drop ih
    · exact ih

/-- The first match is `d`, or the first matches are related. -/
theorem find? (hpq : ∀ a b, R a b → q b = p a) (h : Thinned R d l m) :
    l.find? p = some d ∨ Option.Rel R (l.find? p) (m.find? q) := by
  induction h with
  | nil => exact .inr .none
  | @cons a b l m hab _ ih =>
    rw [List.find?_cons, List.find?_cons, hpq a b hab]
    cases p a with
    | true => exact .inr (.some hab)
    | false => exact ih
  | @drop l m _ ih =>
    rw [List.find?_cons]
    cases p d with
    | true => exact .inl rfl
    | false => exact ih

theorem mem_left (h : Thinned R d l m) {a : Node} (ha : a ∈ l) : a = d ∨ ∃ b ∈ m, R a b := by
  induction h with
  | nil => cases ha
  | cons hab _ ih =>
    rcases List.mem_cons.mp ha with rfl | ha
    · exact .inr ⟨_, List.mem_cons_self, hab⟩
    · exact (ih ha).imp_right fun ⟨b, hb, hr⟩ => ⟨b, List.mem_cons_of_mem _ hb, hr⟩
  | drop _ ih =>
    rcases List.mem_cons.mp ha with rfl | ha
    · exact .inl rfl
    · exact ih ha

theorem mem_right (h : Thinned R d l m) {b : Node} (hb : b ∈ m) : ∃ a ∈ l, R a b := by
  induction h with
  | nil => cases hb
  | cons hab _ ih =>
    rcases List.mem_cons.mp hb with rfl | hb
    · exact ⟨_, List.mem_cons_self, hab⟩
    · obtain ⟨a, ha, hr⟩ := ih hb
      exact ⟨a, List.mem_cons_of_mem _ ha, hr⟩
  | drop _ ih =>
    obtain ⟨a, ha, hr⟩ := ih hb
    exact ⟨a, List.mem_cons_of_mem _ ha, hr⟩

theorem foldl_eq {α : Type} {f g : α → Node → α} (hd : ∀ x, f x d = x) (hfg : ∀ a b, R a b → ∀ x, f x a = g x b)
    (h : Thinned R d l m) (x : α) : l.foldl f x = m.foldl g x := by
  induction h generalizing x with
  | nil => rfl
  | @cons a b l m hab _ ih => rw [List.foldl_cons, List.foldl_cons, hfg a b hab, ih]
  | drop _ ih => rw [List.foldl_cons, hd, ih]

end Thinned

variable {s₁ s₂ : Source} {d a b : Node}

namespace Trimmed

theorem head (h : Trimmed s₁ s₂ d a b) : SameHead a b := by
  rcases h with h | h
  · exact h.head
  · cases h with
    | here hhead => exact hhead
    | child hhead => exact hhead

/-- A node that is no block has related children, and those that give it a name have the same texts. -/
theorem children (h : Trimmed s₁ s₂ d a b) (hkind : a.kind ≠ "statement_block") :
    List.Forall₂ (fun c e => Trimmed s₁ s₂ d c e ∧ (isNamePart a c = true → s₁.textOf c = s₂.textOf e))
      a.children b.children := by
  have halike : ∀ {ns ms : List Node}, List.Forall₂ (Alike s₁ s₂) ns ms →
      List.Forall₂ (fun c e => Trimmed s₁ s₂ d c e ∧ (isNamePart a c = true → s₁.textOf c = s₂.textOf e)) ns ms :=
    fun hns => hns.imp fun c e hce => ⟨.inl hce, fun _ => hce.text⟩
  rcases h with h | h
  · exact halike h.children
  · cases h with
    | here _ hblock => exact absurd hblock hkind
    | child _ _ ha hb hleft hright hname hce =>
      rw [ha, hb]
      exact List.rel_append (halike hleft) (.cons ⟨.inr hce, hname⟩ (halike hright))

/-- The children of every node are related, apart from the dropped statement. -/
theorem thinned_children (h : Trimmed s₁ s₂ d a b) : Thinned (Trimmed s₁ s₂ d) d a.children b.children := by
  have halike : ∀ {ns ms : List Node}, List.Forall₂ (Alike s₁ s₂) ns ms → List.Forall₂ (Trimmed s₁ s₂ d) ns ms :=
    fun hns => hns.imp fun _ _ => .inl
  rcases h with h | h
  · exact .of_forall₂ (halike h.children)
  · cases h with
    | here _ _ ha hb hleft hright =>
      rw [ha, hb]
      exact .of_append (halike hleft) (halike hright)
    | child _ _ ha hb hleft hright _ hce =>
      rw [ha, hb]
      exact .of_forall₂ (List.rel_append (halike hleft) (.cons (.inr hce) (halike hright)))

theorem thinned_namedChildren (h : Trimmed s₁ s₂ d a b) :
    Thinned (Trimmed s₁ s₂ d) d a.namedChildren b.namedChildren :=
  h.thinned_children.filter fun _ _ hce => hce.head.named

theorem child?_cases (h : Trimmed s₁ s₂ d a b) (name : String) :
    a.child? name = some d ∨ Option.Rel (Trimmed s₁ s₂ d) (a.child? name) (b.child? name) :=
  h.thinned_children.find? fun c e hce => by rw [hce.head.field]

theorem rel_child? (h : Trimmed s₁ s₂ d a b) (hkind : a.kind ≠ "statement_block") (name : String) :
    Option.Rel (Trimmed s₁ s₂ d) (a.child? name) (b.child? name) :=
  optionRel_imp (CorpusShape.rel_child? (fun _ _ hce => hce.1.head) (h.children hkind) name) fun _ _ hce => hce.1.1

theorem text_child? (h : Trimmed s₁ s₂ d a b) (hkind : a.kind ≠ "statement_block") (name : String)
    (hpart : ∀ c : Node, c.field = some name → isNamePart a c = true) :
    Option.Rel (fun c e => s₁.textOf c = s₂.textOf e) (a.child? name) (b.child? name) :=
  optionRel_imp (CorpusShape.rel_child? (fun _ _ hce => hce.1.head) (h.children hkind) name) fun c _ hce =>
    hce.1.2 (hpart c hce.2)

theorem text_of_name (h : Trimmed s₁ s₂ d a b) (hkind : a.kind ∈ nameKinds) : s₁.textOf a = s₂.textOf b := by
  rcases h with h | h
  · exact h.text
  · cases h with
    | here _ hblock => exact absurd (hblock ▸ hkind) (by decide)
    | child _ hname => exact hname hkind

theorem mirrors (s₁ s₂ : Source) (d : Node) : Mirrors s₁ s₂ (Trimmed s₁ s₂ d) := by
  refine .of_children head (fun h hkind => ?_) text_of_name (fun {a b} h hkind => ?_) fun {a b} h hkind => ?_
  · exact (h.children fun hblock => hkind (hblock ▸ by decide)).imp fun _ _ hce => hce.1
  · have hblock : a.kind ≠ "statement_block" := fun hblock => absurd (hblock ▸ hkind) (by decide)
    exact optionRel_map (h.text_child? hblock "name" fun c hc => by simp [isNamePart, nameHolderKinds, hc, hkind])
  · have hblock : a.kind ≠ "statement_block" := hkind ▸ by decide
    have htext := h.text_child? hblock "property" fun c hc => by simp [isNamePart, hc, hkind]
    rw [textOf?_eq_getD, textOf?_eq_getD, optionRel_map htext]

/-- Imports are read off nodes whose texts are the same. -/
theorem transcribes (s₁ s₂ : Source) (d : Node) :
    Transcribes s₁ s₂ fun a b => Trimmed s₁ s₂ d a b ∧ s₁.textOf a = s₂.textOf b := by
  refine .of_children (fun h => h.1.head) (fun h => h.2) fun {a b} h hkind => ?_
  have hblock : a.kind ≠ "statement_block" := fun hblock => absurd (hblock ▸ hkind) (by decide)
  exact (h.1.children hblock).imp fun c e hce => ⟨hce.1, hce.2 (by simp [isNamePart, hkind])⟩

theorem importOf? (h : Trimmed s₁ s₂ d a b) (hkind : a.kind = "import_statement") :
    Option.Rel SameImport (importOf? s₁ a) (importOf? s₂ b) := by
  have hchildren : List.Forall₂ (fun c e => Trimmed s₁ s₂ d c e ∧ s₁.textOf c = s₂.textOf e) a.children b.children :=
    (h.children (hkind ▸ by decide)).imp fun c e hce => ⟨hce.1, hce.2 (by simp [isNamePart, hkind, importKinds])⟩
  have hnamed := CorpusShape.forall₂_namedChildren (fun _ _ hce => hce.1.head) hchildren
  refine (transcribes s₁ s₂ d).importOf? (fun kind _ => ?_)
    (optionRel_imp (CorpusShape.rel_child? (fun _ _ hce => hce.1.head) hchildren "source") fun _ _ hce => hce.1.2)
  have hlast := forall₂_find? (p := fun c => c.kind == kind) (q := fun e => e.kind == kind)
    (fun c e hce => by rw [hce.1.head.kind]) (List.forall₂_reverse_iff.mpr hnamed)
  exact optionRel_imp hlast fun c e hce => ⟨hce.1, beq_iff_eq.mp hce.2⟩

theorem bindStatement (h : Trimmed s₁ s₂ d a b) (f : Frame) : f.bindStatement s₁ a = f.bindStatement s₂ b := by
  unfold Frame.bindStatement
  rw [h.head.kind]
  split
  · rename_i hkind
    exact optionRel_elim (P := Eq) (h.importOf? (beq_iff_eq.mp hkind)) rfl fun i _ j hij => hij.bindImport f
  · rfl

end Trimmed

section Hoisting

theorem Trimmed.declaresHere (h : Trimmed s₁ s₂ d a b) {x : String} : DeclaresHere s₁ a x ↔ DeclaresHere s₂ b x := by
  rw [declaresHere_iff, declaresHere_iff, h.head.kind, (mirrors s₁ s₂ d).declaredNames h]
  refine or_congr_right (and_congr_right fun hfor => ?_)
  rw [(mirrors s₁ s₂ d).patternNames? ((mirrors s₁ s₂ d).child h (hfor ▸ by decide) "left")]

/-- Where hoisting goes on, it goes on without the statement too, unless it comes to the statement. -/
theorem Trimmed.hoistLeads_left (h : Trimmed s₁ s₂ d a b) {x : Node} (hlead : HoistLeads a x) :
    x = d ∨ ∃ y, HoistLeads b y ∧ Trimmed s₁ s₂ d x y := by
  cases hlead with
  | child hclosed hvariable hx =>
    refine (h.thinned_namedChildren.mem_left hx).imp_right fun ⟨y, hy, hxy⟩ => ⟨y, ?_, hxy⟩
    exact .child (h.head.kind ▸ hclosed) (h.head.kind ▸ hvariable) hy
  | value hvariable hc hx =>
    have hblock : a.kind ≠ "statement_block" := fun hblock => absurd (hblock ▸ hvariable) (by decide)
    have hnamed := CorpusShape.forall₂_namedChildren (fun _ _ hce => hce.1.head) (h.children hblock)
    obtain ⟨e, he, hce, -⟩ := exists_mem_of_forall₂ hnamed hc
    rcases hce.child?_cases "value" with hd | hvalue
    · exact .inl (Option.some.inj (hx.symm.trans hd))
    · rw [hx] at hvalue
      generalize hy : e.child? "value" = z at hvalue
      cases hvalue with
      | some hxy => exact .inr ⟨_, .value (h.head.kind ▸ hvariable) he hy, hxy⟩

/-- Where hoisting goes on without the statement, it goes on with it, or it comes to the statement instead. -/
theorem Trimmed.hoistLeads_right (h : Trimmed s₁ s₂ d a b) {y : Node} (hlead : HoistLeads b y) :
    HoistLeads a d ∨ ∃ x, HoistLeads a x ∧ Trimmed s₁ s₂ d x y := by
  cases hlead with
  | child hclosed hvariable hy =>
    obtain ⟨x, hx, hxy⟩ := h.thinned_namedChildren.mem_right hy
    exact .inr ⟨x, .child (h.head.kind ▸ hclosed) (h.head.kind ▸ hvariable) hx, hxy⟩
  | value hvariable he hy =>
    rw [h.head.kind] at hvariable
    obtain ⟨c, hc, hce⟩ := h.thinned_namedChildren.mem_right he
    rcases hce.child?_cases "value" with hd | hvalue
    · exact .inl (.value hvariable hc hd)
    · rw [hy] at hvalue
      generalize hx : c.child? "value" = z at hvalue
      cases hvalue with
      | some hxy => exact .inr ⟨_, .value hvariable hc hx, hxy⟩

theorem Trimmed.hoistedFrom_left (h : Trimmed s₁ s₂ d a b) {x : String} (hx : HoistedFrom s₁ a x) :
    HoistedFrom s₂ b x ∨ Relation.ReflTransGen HoistLeads a d := by
  obtain ⟨e, hreach, he⟩ := hx
  induction hreach using Relation.ReflTransGen.head_induction_on generalizing b with
  | refl => exact .inl ⟨b, .refl, h.declaresHere.mp he⟩
  | head hlead _ ih =>
    rcases h.hoistLeads_left hlead with rfl | ⟨y, hy, hxy⟩
    · exact .inr (.single hlead)
    · exact (ih hxy).imp (fun hfrom => hoistedFrom_iff.mpr (.inr ⟨y, hy, hfrom⟩)) (.head hlead)

theorem Trimmed.hoistedFrom_right (h : Trimmed s₁ s₂ d a b) {x : String} (hd : DeclaresHere s₁ d x)
    (hx : HoistedFrom s₂ b x) : HoistedFrom s₁ a x := by
  obtain ⟨e, hreach, he⟩ := hx
  induction hreach using Relation.ReflTransGen.head_induction_on generalizing a with
  | refl => exact ⟨a, .refl, h.declaresHere.mpr he⟩
  | head hlead _ ih =>
    rcases h.hoistLeads_right hlead with hdropped | ⟨c, hc, hce⟩
    · exact ⟨d, .single hdropped, hd⟩
    · exact hoistedFrom_iff.mpr (.inr ⟨c, hc, ih hce⟩)

/-- Hoisting that does not look at the statement finds its names exactly if it finds them without the statement. -/
theorem Trimmed.hoisted_iff (h : Trimmed s₁ s₂ d a b) {x : String} (hd : DeclaresHere s₁ d x) (hlooks : ¬LooksAt a d) :
    Hoisted s₁ a x ↔ Hoisted s₂ b x := by
  constructor
  · rintro ⟨c, hc, hx⟩
    rcases h.thinned_namedChildren.mem_left hc with rfl | ⟨e, he, hce⟩
    · exact absurd (.of_mem hc) hlooks
    · exact ⟨e, he, (hce.hoistedFrom_left hx).resolve_right fun hreach => hlooks ⟨c, hc, hreach⟩⟩
  · rintro ⟨e, he, hx⟩
    obtain ⟨c, hc, hce⟩ := h.thinned_namedChildren.mem_right he
    exact ⟨c, hc, hce.hoistedFrom_right hd hx⟩

end Hoisting

section Frames

/-- The function hoists the statement to its own scope. -/
def Carries (d f : Node) : Prop := ∃ body, functionBody? f = some body ∧ LooksAt body d

theorem Trimmed.get?_hoist (h : Trimmed s₁ s₂ d a b) {x : String} (hd : DeclaresHere s₁ d x) (hlooks : ¬LooksAt a d)
    (f : Frame) : (hoist s₁ a f).get? x = (hoist s₂ b f).get? x := by
  have hiff := h.hoisted_iff hd hlooks
  by_cases hx : Hoisted s₁ a x
  · rw [get?_hoist_of_hoisted f hx, get?_hoist_of_hoisted f (hiff.mp hx)]
  · rw [get?_hoist_of_not_hoisted f hx, get?_hoist_of_not_hoisted f (mt hiff.mpr hx)]

theorem Trimmed.ownNames (h : Trimmed s₁ s₂ d a b) : ownNames s₁ a = ownNames s₂ b := by
  unfold CorpusShape.ownNames
  rw [h.head.kind]
  split
  · rename_i hkind
    have hmem := List.contains_iff_mem.mp hkind
    have hblock : a.kind ≠ "statement_block" := fun hblock => absurd (hblock ▸ hmem) (by decide)
    have hname := optionRel_map
      (h.text_child? hblock "name" fun c hc => by simp [isNamePart, nameHolderKinds, hc, hmem])
    rw [← Option.toList_map, ← Option.toList_map, hname]
  · rfl

theorem Trimmed.signatureFrame (h : Trimmed s₁ s₂ d a b) (hblock : a.kind ≠ "statement_block") :
    signatureFrame s₁ a = signatureFrame s₂ b := by
  unfold CorpusShape.signatureFrame
  rw [h.ownNames, (mirrors s₁ s₂ d).patternNames?
    (optionRel_orElse (h.rel_child? hblock "parameters") (h.rel_child? hblock "parameter"))]

/-- A function to which the statement is not carried binds its names as it does without the statement. -/
theorem Trimmed.get?_functionFrame (h : Trimmed s₁ s₂ d a b) {x : String} (hd : DeclaresHere s₁ d x)
    (hkind : a.kind ∈ functionKinds) (hcarries : ¬Carries d a) :
    (functionFrame s₁ a).get? x = (functionFrame s₂ b).get? x := by
  have hblock : a.kind ≠ "statement_block" := fun hblock => absurd (hblock ▸ hkind) (by decide)
  have hbody := h.rel_child? hblock "body"
  rw [functionFrame_eq, functionFrame_eq s₂, h.signatureFrame hblock]
  generalize hfound : a.child? "body" = body at hbody ⊢
  generalize b.child? "body" = body' at hbody ⊢
  cases hbody with
  | none => rfl
  | some hbody =>
    dsimp only
    rw [hbody.head.kind]
    split
    · rename_i hstatements
      refine hbody.get?_hoist hd (fun hlooks => hcarries ⟨_, ?_, hlooks⟩) _
      exact functionBody?_eq_some.mpr ⟨hkind, hfound, beq_iff_eq.mp hstatements⟩
    · rfl

theorem Trimmed.openedFrame? (h : Trimmed s₁ s₂ d a b) {x : String} (hd : DeclaresHere s₁ d x)
    (hcarries : ¬Carries d a) :
    Option.Rel (fun f g => f.get? x = g.get? x) (openedFrame? s₁ a) (openedFrame? s₂ b) := by
  unfold CorpusShape.openedFrame?
  rw [h.head.kind]
  split
  · rename_i hkind
    exact .some (h.get?_functionFrame hd (List.contains_iff_mem.mp hkind) hcarries)
  split
  · rename_i hkind
    have hblock : a.kind ≠ "statement_block" := beq_iff_eq.mp hkind ▸ by decide
    unfold catchFrame
    rw [(mirrors s₁ s₂ d).patternNames? (h.rel_child? hblock "parameter")]
    exact .some rfl
  · exact .none

/-- A module to whose frame the statement is not carried binds its names as it does without the statement. -/
theorem Trimmed.get?_frame_extract {text₁ text₂ : String} (path : String) {x : String}
    (h : Trimmed (.ofString text₁) (.ofString text₂) d a b) (hd : DeclaresHere (.ofString text₁) d x)
    (hkind : d.kind ≠ "import_statement") (hlooks : ¬LooksAt a d) :
    (extract path text₁ a).frame.get? x = (extract path text₂ b).frame.get? x := by
  have hdropped : ∀ f : Frame, f.bindStatement (.ofString text₁) d = f := fun f => if_neg (mt beq_iff_eq.mp hkind)
  rw [frame_extract, frame_extract, h.thinned_namedChildren.foldl_eq hdropped fun _ _ hce => hce.bindStatement]
  exact h.get?_hoist hd hlooks _

end Frames

end CorpusShape
