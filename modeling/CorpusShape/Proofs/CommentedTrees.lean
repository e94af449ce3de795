import CorpusShape.Proofs.Encapsulation

/-!
# Trees with the same code

Two syntax trees, each over its own text, have the same code if they differ only in where their nodes stand and in their
comments. Where children are looked up by field or by kind comments are passed over. Where the first named child is
taken, whatever it is, the two trees have to agree on whether it is a comment. What is declared, hoisted and imported is
then the same in both trees, and so are the frames that their nodes open.
-/
namespace CorpusShape

open Syntax

namespace Syntax.Node

/-- A comment holds no field and has no parts. -/
def isComment (n : Node) : Bool :=
  n.kind == "comment" && n.named && n.field.isNone && !n.missing && n.children.isEmpty

/-- The children apart from the comments. -/
def code (n : Node) : List Node := n.children.filter (!·.isComment)

def readsFirst (n : Node) : Bool :=
  ("ambient_declaration" :: transparentKinds).contains n.kind ||
    (n.kind == "extends_clause" && (n.child? "value").isNone) ||
    (n.kind == "class_heritage" && (n.namedChild? "extends_clause").isNone)

def startsWithComment (n : Node) : Bool := n.namedChildren.head?.any (·.isComment)

end Syntax.Node

def spelledKinds : List String := nameKinds ++ ["shorthand_property_identifier", "accessibility_modifier", "string"]

def fieldKinds : List String := ["public_field_definition", "field_definition"]

def memberKinds : List String := fieldKinds ++ ["method_signature", "method_definition", "abstract_method_signature"]

def specifierKinds : List String := ["import_specifier", "export_specifier"]

/-- The fields that are read for their texts, each with the kinds of the nodes that hold it. -/
def spelledFields : List (String × List String) :=
  [("name", nameHolderKinds ++ classKinds ++ memberKinds ++ specifierKinds),
    ("alias", specifierKinds),
    ("source", ["import_statement", "import_require_clause", "export_statement"]),
    ("property", "member_expression" :: fieldKinds),
    ("key", ["pair"])]

def spells (kind name : String) : Bool := spelledFields.any fun p => p.1 == name && p.2.contains kind

structure SpeltAlike (s₁ s₂ : Source) (a b : Node) : Prop where
  own : a.kind ∈ spelledKinds → s₁.textOf a = s₂.textOf b
  fields : ∀ p ∈ spelledFields, a.kind ∈ p.2 → (a.child? p.1).map s₁.textOf = (b.child? p.1).map s₂.textOf
  last : a.kind = "namespace_export" → s₁.textOf? a.namedChildren.getLast? = s₂.textOf? b.namedChildren.getLast?

instance (s₁ s₂ : Source) (a b : Node) : Decidable (SpeltAlike s₁ s₂ a b) :=
  decidable_of_iff ((a.kind ∈ spelledKinds → s₁.textOf a = s₂.textOf b) ∧
      (∀ p ∈ spelledFields, a.kind ∈ p.2 → (a.child? p.1).map s₁.textOf = (b.child? p.1).map s₂.textOf) ∧
      (a.kind = "namespace_export" → s₁.textOf? a.namedChildren.getLast? = s₂.textOf? b.namedChildren.getLast?))
    ⟨fun h => ⟨h.1, h.2.1, h.2.2⟩, fun h => ⟨h.own, h.fields, h.last⟩⟩

/-- Nodes of a kind that is read for no text are spelt alike. -/
theorem SpeltAlike.of_unread {s₁ s₂ : Source} {a b : Node} (hown : a.kind ∉ spelledKinds)
    (hfields : ∀ p ∈ spelledFields, a.kind ∉ p.2) (hlast : a.kind ≠ "namespace_export") : SpeltAlike s₁ s₂ a b :=
  ⟨fun h => absurd h hown, fun p hp h => absurd h (hfields p hp), fun h => absurd h hlast⟩

/-- The two trees differ only in where their nodes stand and in their comments. A comment that is read stands on both
sides. -/
inductive SameCode (s₁ s₂ : Source) : Node → Node → Prop
  | intro {a b : Node} : SameHead a b → b.missing = a.missing → SpeltAlike s₁ s₂ a b →
      (a.readsFirst = true → b.startsWithComment = a.startsWithComment) →
      List.Forall₂ (SameCode s₁ s₂) a.code b.code → SameCode s₁ s₂ a b

section Children
variable {n : Node}

theorem isComment_iff : n.isComment = true ↔
    n.kind = "comment" ∧ n.named = true ∧ n.field = none ∧ n.missing = false ∧ n.children = [] := by
  simp [Node.isComment, and_assoc]

/-- What no comment satisfies is looked for apart from the comments. -/
theorem filter_code {p : Node → Bool} (hp : ∀ c, p c = true → c.isComment = false) (ns : List Node) :
    (ns.filter (!·.isComment)).filter p = ns.filter p := by
  rw [List.filter_filter]
  refine List.filter_congr fun c _ => ?_
  cases hc : p c with
  | true => simp [hp c hc]
  | false => rfl

theorem find?_code {p : Node → Bool} (hp : ∀ c, p c = true → c.isComment = false) (n : Node) :
    n.code.find? p = n.children.find? p := by
  rw [Node.code, ← List.head?_filter, ← List.head?_filter, filter_code hp]

theorem child?_eq_code (n : Node) (name : String) : n.child? name = n.code.find? (·.field == some name) := by
  refine (find?_code (fun c hc => Bool.eq_false_iff.mpr fun hcomment => ?_) n).symm
  rw [(isComment_iff.mp hcomment).2.2.1] at hc
  cases hc

theorem spoken_eq_code (n : Node) : n.spoken = (n.code.filter (·.named)).filter fun c => !(c.kind == "comment") := by
  rw [Node.spoken, Node.namedChildren, List.filter_filter, List.filter_filter]
  refine (filter_code (fun c hc => Bool.eq_false_iff.mpr fun hcomment => ?_) n.children).symm
  rw [(isComment_iff.mp hcomment).1] at hc
  cases hc

theorem hasToken_eq_code (n : Node) (text : String) :
    n.hasToken text = n.code.any fun c => !c.named && c.kind == text := by
  rw [Node.hasToken, ← List.isSome_find?, ← List.isSome_find?, find?_code fun c hc => ?_]
  refine Bool.eq_false_iff.mpr fun hcomment => ?_
  rw [(isComment_iff.mp hcomment).2.1] at hc
  cases hc

theorem anyFault_eq (ns : List Node) : Node.anyFault ns = ns.any Node.hasFault := by
  induction ns with
  | nil => rfl
  | cons n ns ih => rw [Node.anyFault, List.any_cons, ih]

theorem hasFault_eq (n : Node) : n.hasFault = (n.kind == "ERROR" || n.missing || n.children.any Node.hasFault) := by
  cases n
  rw [Node.hasFault, anyFault_eq]

theorem hasFault_eq_code (n : Node) : n.hasFault = (n.kind == "ERROR" || n.missing || n.code.any Node.hasFault) := by
  rw [hasFault_eq, ← List.isSome_find?, ← List.isSome_find?, find?_code fun c hc => ?_]
  refine Bool.eq_false_iff.mpr fun hcomment => ?_
  obtain ⟨hkind, -, -, hmissing, hchildren⟩ := isComment_iff.mp hcomment
  rw [hasFault_eq, hkind, hmissing, hchildren] at hc
  cases hc

theorem child?_of_isComment (h : n.isComment = true) (name : String) : n.child? name = none := by
  rw [Node.child?, (isComment_iff.mp h).2.2.2.2]
  rfl

theorem namedChild?_of_isComment (h : n.isComment = true) (kind : String) : n.namedChild? kind = none := by
  rw [Node.namedChild?, Node.namedChildren, (isComment_iff.mp h).2.2.2.2]
  rfl

/-- The named children apart from the comments, among them what is only of the kind of a comment. -/
theorem filter_namedChildren (n : Node) : n.namedChildren.filter (!·.isComment) = n.code.filter (·.named) := by
  rw [Node.namedChildren, Node.code, List.filter_filter, List.filter_filter]
  exact List.filter_congr fun c _ => Bool.and_comm _ _

theorem head?_namedChildren (h : n.startsWithComment = false) :
    n.namedChildren.head? = (n.code.filter (·.named)).head? := by
  rw [← filter_namedChildren]
  unfold Node.startsWithComment at h
  cases hnamed : n.namedChildren with
  | nil => rfl
  | cons c rest =>
    rw [hnamed] at h
    have hc : (!c.isComment) = true := by simpa using h
    simp [hc]

end Children

namespace SameCode
variable {s₁ s₂ : Source} {a b : Node}

theorem head (h : SameCode s₁ s₂ a b) : SameHead a b := by
  cases h with
  | intro hhead => exact hhead

theorem spelt (h : SameCode s₁ s₂ a b) : SpeltAlike s₁ s₂ a b := by
  cases h with
  | intro _ _ hspelt => exact hspelt

theorem code (h : SameCode s₁ s₂ a b) : List.Forall₂ (SameCode s₁ s₂) a.code b.code := by
  cases h with
  | intro _ _ _ _ hcode => exact hcode

/-- Tokens of one text are the same code, wherever they stand. -/
theorem of_token {text : String} (h : text ∉ spelledKinds) (i j k l : Nat) :
    SameCode s₁ s₂ (.token text i j) (.token text k l) :=
  .intro ⟨rfl, rfl, rfl⟩ rfl ⟨fun hkind => absurd hkind h, fun _ _ _ => rfl, fun _ => rfl⟩ (fun _ => rfl) .nil

/-- Comments are the same code, whatever they say. -/
theorem of_isComment (ha : a.isComment = true) (hb : b.isComment = true) : SameCode s₁ s₂ a b := by
  obtain ⟨hkind₁, hnamed₁, hfield₁, hmissing₁, hchildren₁⟩ := isComment_iff.mp ha
  obtain ⟨hkind₂, hnamed₂, hfield₂, hmissing₂, hchildren₂⟩ := isComment_iff.mp hb
  have hcode : a.code = [] ∧ b.code = [] := by simp [Node.code, hchildren₁, hchildren₂]
  refine .intro ⟨hkind₂.trans hkind₁.symm, hnamed₂.trans hnamed₁.symm, hfield₂.trans hfield₁.symm⟩
    (hmissing₂.trans hmissing₁.symm) ?_ ?_ (by rw [hcode.1, hcode.2]; exact .nil)
  · have hnone : ∀ p ∈ spelledFields, "comment" ∉ p.2 := by decide
    refine ⟨fun hkind => ?_, fun p hp hkind => ?_, fun hkind => ?_⟩
    · exact absurd (hkind₁ ▸ hkind) (by decide)
    · exact absurd (hkind₁ ▸ hkind) (hnone p hp)
    · exact absurd (hkind₁ ▸ hkind) (by decide)
  · intro _
    simp [Node.startsWithComment, Node.namedChildren, hchildren₁, hchildren₂]

theorem rel_child? (h : SameCode s₁ s₂ a b) (name : String) :
    Option.Rel (SameCode s₁ s₂) (a.child? name) (b.child? name) := by
  have hfind := forall₂_find? (p := fun c => c.field == some name) (q := fun d => d.field == some name)
    (fun c d hcd => by rw [hcd.head.field]) h.code
  rw [child?_eq_code, child?_eq_code]
  exact optionRel_imp hfind fun _ _ hcd => hcd.1

theorem forall₂_named (h : SameCode s₁ s₂ a b) :
    List.Forall₂ (SameCode s₁ s₂) (a.namedChildren.filter (!·.isComment)) (b.namedChildren.filter (!·.isComment)) := by
  rw [filter_namedChildren, filter_namedChildren]
  exact forall₂_filter (fun c d hcd => hcd.head.named) h.code

theorem forall₂_spoken (h : SameCode s₁ s₂ a b) : List.Forall₂ (SameCode s₁ s₂) a.spoken b.spoken := by
  rw [spoken_eq_code, spoken_eq_code, ← filter_namedChildren, ← filter_namedChildren]
  exact forall₂_filter (fun c d hcd => by rw [hcd.head.kind]) h.forall₂_named

theorem rel_namedChild? (h : SameCode s₁ s₂ a b) {kind : String} (hkind : kind ≠ "comment") :
    Option.Rel (fun c d => SameCode s₁ s₂ c d ∧ c.kind = kind) (a.namedChild? kind) (b.namedChild? kind) :=
  CorpusShape.rel_namedChild? (fun _ _ => head) h.forall₂_spoken hkind

theorem hasToken (h : SameCode s₁ s₂ a b) (text : String) : a.hasToken text = b.hasToken text := by
  rw [hasToken_eq_code, hasToken_eq_code]
  exact any_eq_of_forall₂ h.code fun c d hcd => by rw [hcd.head.named, hcd.head.kind]

theorem hasFault (h : SameCode s₁ s₂ a b) : a.hasFault = b.hasFault := by
  induction a using Node.inductionOn generalizing b with
  | h a ih =>
    have hcode := forall₂_imp_of_mem h.code fun c hc d hcd => ih c (List.mem_of_mem_filter hc) hcd
    have hany : a.code.any Node.hasFault = b.code.any Node.hasFault := any_eq_of_forall₂ hcode fun _ _ hcd => hcd
    cases h with
    | intro hhead hmissing => rw [hasFault_eq_code, hasFault_eq_code, hhead.kind, hmissing, hany]

theorem rel_first (h : SameCode s₁ s₂ a b) (hreads : a.readsFirst = true) :
    Option.Rel (SameCode s₁ s₂) a.namedChildren.head? b.namedChildren.head? := by
  have hfirst : b.startsWithComment = a.startsWithComment := by
    cases h with
    | intro _ _ _ hfirst => exact hfirst hreads
  cases hstarts : a.startsWithComment with
  | false =>
    rw [head?_namedChildren hstarts, head?_namedChildren (hfirst.trans hstarts)]
    exact forall₂_head? (forall₂_filter (fun c d hcd => hcd.head.named) h.code)
  | true =>
    rw [hstarts] at hfirst
    obtain ⟨c, hc, hcomment⟩ := (Option.any_eq_true _ _).mp hstarts
    obtain ⟨d, hd, hcomment'⟩ := (Option.any_eq_true _ _).mp hfirst
    rw [hc, hd]
    exact .some (of_isComment hcomment hcomment')

theorem text_child? (h : SameCode s₁ s₂ a b) (name : String) (hspells : spells a.kind name = true) :
    (a.child? name).map s₁.textOf = (b.child? name).map s₂.textOf := by
  obtain ⟨p, hp, hmatch⟩ := List.any_eq_true.mp hspells
  obtain ⟨hname, hkind⟩ := Bool.and_eq_true_iff.mp hmatch
  rw [← beq_iff_eq.mp hname]
  exact h.spelt.fields p hp (List.contains_iff_mem.mp hkind)

theorem rel_spelledChild? (h : SameCode s₁ s₂ a b) (name : String) (hspells : spells a.kind name = true) :
    Option.Rel (fun c d => SameCode s₁ s₂ c d ∧ s₁.textOf c = s₂.textOf d) (a.child? name) (b.child? name) := by
  have hchild := h.rel_child? name
  have htext := h.text_child? name hspells
  generalize a.child? name = x at hchild htext ⊢
  generalize b.child? name = y at hchild htext ⊢
  cases hchild with
  | none => exact .none
  | some hcd => exact .some ⟨hcd, Option.some.inj htext⟩

theorem textOf?_child (h : SameCode s₁ s₂ a b) (name : String) (hspells : spells a.kind name = true) :
    s₁.textOf? (a.child? name) = s₂.textOf? (b.child? name) := by
  rw [textOf?_eq_getD, textOf?_eq_getD, h.text_child? name hspells]

theorem mirrors (s₁ s₂ : Source) : Mirrors s₁ s₂ (SameCode s₁ s₂) where
  head := head
  child h _ := h.rel_child?
  spoken h _ := h.forall₂_spoken
  first h hkind := by
    refine h.rel_first ?_
    rw [Node.readsFirst, List.contains_iff_mem.mpr hkind]
    rfl
  name h hkind := h.spelt.own (List.mem_append_left _ hkind)
  declared h hkind := by
    have hspells : ∀ kind ∈ namedDeclarationKinds, spells kind "name" = true := by decide
    exact h.text_child? "name" (hspells _ hkind)
  property h hkind := h.textOf?_child "property" (hkind ▸ by decide)

theorem transcribes (s₁ s₂ : Source) : Transcribes s₁ s₂ (SameCode s₁ s₂) where
  head := head
  text h hkind := by
    have hspelled : ∀ kind ∈ ["identifier", "string"], kind ∈ spelledKinds := by decide
    exact h.spelt.own (hspelled _ hkind)
  specifier h hkind name hname := by
    have hspells : ∀ name ∈ ["name", "alias"], spells "import_specifier" name = true := by decide
    exact h.text_child? name (hkind ▸ hspells name hname)
  source h hkind := h.text_child? "source" (hkind ▸ by decide)
  spoken h _ := h.forall₂_spoken

theorem importOf? (h : SameCode s₁ s₂ a b) (hkind : a.kind = "import_statement") :
    Option.Rel SameImport (importOf? s₁ a) (importOf? s₂ b) := by
  refine (transcribes s₁ s₂).importOf? (fun kind hclause => ?_) (optionRel_of_map (h.text_child? "source" ?_))
  · have hcomment : ∀ kind ∈ ["import_clause", "import_require_clause"], kind ≠ "comment" := by decide
    exact rel_lastChild? (fun _ _ => head) h.forall₂_spoken (hcomment kind hclause)
  · rw [hkind]
    decide

end SameCode

section Hoisting
variable {s₁ s₂ : Source} {a b : Node}

theorem hoistStep_of_isComment (src : Source) (n : Node) (h : (!n.isComment) = false) : hoistStep src n = ([], []) := by
  have hcomment : n.isComment = true := by simpa using h
  obtain ⟨hkind, -, -, -, hchildren⟩ := isComment_iff.mp hcomment
  rw [hoistStep_of_open src (hkind ▸ by decide) (hkind ▸ by decide), hkind, Node.namedChildren, hchildren]
  rfl

/-- An initial value holds a field, so that it is no comment. -/
theorem filter_values (n : Node) : (n.namedChildren.filterMap (·.child? "value")).filter (!·.isComment) =
    (n.namedChildren.filter (!·.isComment)).filterMap (·.child? "value") := by
  rw [filterMap_without fun c hc => child?_of_isComment hc "value"]
  refine List.filter_eq_self.mpr fun v hv => ?_
  obtain ⟨c, -, hc⟩ := List.mem_filterMap.mp hv
  have hfield := List.find?_some hc
  cases hcomment : v.isComment with
  | false => rfl
  | true =>
    rw [(isComment_iff.mp hcomment).2.2.1] at hfield
    cases hfield

theorem SameCode.hoistStep (h : SameCode s₁ s₂ a b) :
    (hoistStep s₁ a).1 = (hoistStep s₂ b).1 ∧ List.Forall₂ (SameCode s₁ s₂)
      ((hoistStep s₁ a).2.filter (!·.isComment)) ((hoistStep s₂ b).2.filter (!·.isComment)) := by
  have hdeclared := (mirrors s₁ s₂).declaredNames h
  by_cases hclosed : a.kind ∈ closedKinds
  · rw [hoistStep_of_closed s₁ hclosed, hoistStep_of_closed s₂ (h.head.kind ▸ hclosed), h.head.kind, hdeclared]
    exact ⟨rfl, .nil⟩
  by_cases hvariable : a.kind ∈ variableKinds
  · rw [hoistStep_of_variable s₁ hvariable, hoistStep_of_variable s₂ (h.head.kind ▸ hvariable), hdeclared]
    rw [filter_values, filter_values]
    exact ⟨rfl, List.rel_filterMap (fun c d hcd => hcd.rel_child? "value") h.forall₂_named⟩
  · rw [hoistStep_of_open s₁ hclosed hvariable, hoistStep_of_open s₂ (h.head.kind ▸ hclosed) (h.head.kind ▸ hvariable),
      h.head.kind, (mirrors s₁ s₂).patternNames? (h.rel_child? "left")]
    exact ⟨rfl, h.forall₂_named⟩

theorem SameCode.hoist (h : SameCode s₁ s₂ a b) (f : Frame) : hoist s₁ a f = hoist s₂ b f := by
  refine hoistPending_eq (R := SameCode s₁ s₂) hoistStep_of_isComment (fun c d hcd => hcd.hoistStep) f ?_
  rw [List.filter_reverse, List.filter_reverse]
  exact List.forall₂_reverse_iff.mpr h.forall₂_named

end Hoisting

section Frames
variable {s₁ s₂ : Source} {a b : Node}

theorem SameCode.ownNames (h : SameCode s₁ s₂ a b) : ownNames s₁ a = ownNames s₂ b := by
  unfold CorpusShape.ownNames
  rw [h.head.kind]
  split
  · rename_i hkind
    have hspells : ∀ kind ∈ functionExpressionKinds, spells kind "name" = true := by decide
    rw [← Option.toList_map, ← Option.toList_map, h.text_child? "name" (hspells _ (List.contains_iff_mem.mp hkind))]
  · rfl

theorem SameCode.signatureFrame (h : SameCode s₁ s₂ a b) : signatureFrame s₁ a = signatureFrame s₂ b := by
  unfold CorpusShape.signatureFrame
  have hparameters := optionRel_orElse (h.rel_child? "parameters") (h.rel_child? "parameter")
  rw [h.ownNames, (mirrors s₁ s₂).patternNames? hparameters]

theorem SameCode.functionFrame (h : SameCode s₁ s₂ a b) : functionFrame s₁ a = functionFrame s₂ b := by
  have hbody := h.rel_child? "body"
  rw [functionFrame_eq, functionFrame_eq s₂, h.signatureFrame]
  generalize a.child? "body" = x at hbody ⊢
  generalize b.child? "body" = y at hbody ⊢
  cases hbody with
  | none => rfl
  | some hbody =>
    dsimp only
    rw [hbody.head.kind, hbody.hoist]

theorem SameCode.openedFrame? (h : SameCode s₁ s₂ a b) : openedFrame? s₁ a = openedFrame? s₂ b := by
  unfold CorpusShape.openedFrame? catchFrame
  rw [h.head.kind, h.functionFrame, (mirrors s₁ s₂).patternNames? (h.rel_child? "parameter")]

end Frames

end CorpusShape
