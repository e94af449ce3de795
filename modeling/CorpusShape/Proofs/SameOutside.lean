import CorpusShape.Proofs.MirroredTrees

/-!
# Trees that are the same outside their functions

Two syntax trees, each over its own text, are alike if they differ only in where their nodes stand. They are the same
outside their functions if they differ, apart from that, only inside functions, and a function that is a declaration
keeps its name. What is declared, hoisted and imported is the same in two such trees, and so is the callee that an
expression is: none of these ever looks into a function.
-/
namespace CorpusShape

open Syntax

/-- The two trees differ only in where their nodes stand. -/
inductive Alike (s₁ s₂ : Source) : Node → Node → Prop
  | intro {a b : Node} : SameHead a b → s₁.textOf a = s₂.textOf b →
      List.Forall₂ (Alike s₁ s₂) a.children b.children → Alike s₁ s₂ a b

/-- Functions that have a name outside or inside themselves, and other declarations of one name. -/
def nameHolderKinds : List String := namedDeclarationKinds ++ functionExpressionKinds

/-- The parts of a node that hold no function: the name of a declaration, the property of a member access, and what is
imported. A declaration of variables holds declarators and no functions besides. -/
def isPlainPart (n c : Node) : Bool :=
  (c.field == some "name" && nameHolderKinds.contains n.kind) ||
  (c.field == some "property" && n.kind == "member_expression") ||
  (n.kind == "import_statement" &&
    (c.field == some "source" || ["import_clause", "import_require_clause"].contains c.kind)) ||
  (variableKinds.contains n.kind && functionKinds.contains c.kind)

/-- The two trees differ only in where their nodes stand and inside their functions. -/
inductive SameOutside (s₁ s₂ : Source) : Node → Node → Prop
  | function {a b : Node} : SameHead a b → a.kind ∈ functionKinds →
      (a.kind ∈ namedDeclarationKinds → (a.child? "name").map s₁.textOf = (b.child? "name").map s₂.textOf) →
      SameOutside s₁ s₂ a b
  | other {a b : Node} : SameHead a b → (a.kind ∈ nameKinds → s₁.textOf a = s₂.textOf b) →
      List.Forall₂ (SameOutside s₁ s₂) a.children b.children →
      List.Forall₂ (fun c d => isPlainPart a c = true → Alike s₁ s₂ c d) a.children b.children →
      SameOutside s₁ s₂ a b

variable {s₁ s₂ : Source} {a b : Node}

namespace Alike

theorem head (h : Alike s₁ s₂ a b) : SameHead a b := by
  cases h with
  | intro hhead => exact hhead

theorem text (h : Alike s₁ s₂ a b) : s₁.textOf a = s₂.textOf b := by
  cases h with
  | intro _ htext => exact htext

theorem children (h : Alike s₁ s₂ a b) : List.Forall₂ (Alike s₁ s₂) a.children b.children := by
  cases h with
  | intro _ _ hchildren => exact hchildren

theorem transcribes (s₁ s₂ : Source) : Transcribes s₁ s₂ (Alike s₁ s₂) :=
  .of_children head text fun h _ => h.children

theorem rel_child? (h : Alike s₁ s₂ a b) (name : String) :
    Option.Rel (Alike s₁ s₂) (a.child? name) (b.child? name) :=
  optionRel_imp (CorpusShape.rel_child? (fun _ _ => head) h.children name) fun _ _ hcd => hcd.1

theorem forall₂_namedChildren (h : Alike s₁ s₂ a b) :
    List.Forall₂ (Alike s₁ s₂) a.namedChildren b.namedChildren :=
  CorpusShape.forall₂_namedChildren (fun _ _ => head) h.children

theorem sameOutside (h : Alike s₁ s₂ a b) : SameOutside s₁ s₂ a b := by
  induction a using Node.inductionOn generalizing b with
  | h a ih =>
    have hinside := forall₂_imp_of_mem h.children fun c hc d hcd => ih c hc hcd
    exact .other h.head (fun _ => h.text) hinside (forall₂_imp_of_mem h.children fun _ _ _ hcd _ => hcd)

mutual
def check (s₁ s₂ : Source) : Node → Node → Bool
  | a@⟨_, _, _, _, _, _, children⟩, b =>
    b.kind == a.kind && b.named == a.named && b.field == a.field && s₁.textOf a == s₂.textOf b &&
      checkAll s₁ s₂ children b.children

def checkAll (s₁ s₂ : Source) : List Node → List Node → Bool
  | [], [] => true
  | a :: ns, b :: ms => check s₁ s₂ a b && checkAll s₁ s₂ ns ms
  | _, _ => false
end

theorem checkAll_iff {ns ms : List Node} :
    checkAll s₁ s₂ ns ms = true ↔ List.Forall₂ (fun a b => check s₁ s₂ a b = true) ns ms := by
  induction ns generalizing ms with
  | nil => cases ms <;> simp [checkAll]
  | cons a ns ih => cases ms <;> simp [checkAll, ih]

theorem check_iff : check s₁ s₂ a b = true ↔ Alike s₁ s₂ a b := by
  induction a using Node.inductionOn generalizing b with
  | h a ih =>
    have hchildren : checkAll s₁ s₂ a.children b.children = true ↔
        List.Forall₂ (Alike s₁ s₂) a.children b.children := by
      rw [checkAll_iff]
      exact ⟨fun h => forall₂_imp_of_mem h fun c hc _ => (ih c hc).mp,
        fun h => forall₂_imp_of_mem h fun c hc _ => (ih c hc).mpr⟩
    have hnode : check s₁ s₂ a b = (b.kind == a.kind && b.named == a.named && b.field == a.field &&
        s₁.textOf a == s₂.textOf b && checkAll s₁ s₂ a.children b.children) := by
      cases a
      rw [check]
    rw [hnode]
    simp only [Bool.and_eq_true, beq_iff_eq, hchildren]
    constructor
    · rintro ⟨⟨⟨⟨hkind, hnamed⟩, hfield⟩, htext⟩, hall⟩
      exact .intro ⟨hkind, hnamed, hfield⟩ htext hall
    · intro h
      exact ⟨⟨⟨⟨h.head.kind, h.head.named⟩, h.head.field⟩, h.text⟩, h.children⟩

instance (s₁ s₂ : Source) (a b : Node) : Decidable (Alike s₁ s₂ a b) := decidable_of_iff _ check_iff

end Alike

namespace SameOutside

theorem head (h : SameOutside s₁ s₂ a b) : SameHead a b := by
  cases h with
  | function hhead => exact hhead
  | other hhead => exact hhead

/-- A node that is no function has related children, and those of its parts that hold no function are alike. -/
theorem children (h : SameOutside s₁ s₂ a b) (hkind : a.kind ∉ functionKinds) :
    List.Forall₂ (fun c d => SameOutside s₁ s₂ c d ∧ (isPlainPart a c = true → Alike s₁ s₂ c d))
      a.children b.children := by
  cases h with
  | function _ hfunction => exact absurd hfunction hkind
  | other _ _ hchildren hplain => exact forall₂_and hchildren hplain

theorem rel_child? (h : SameOutside s₁ s₂ a b) (hkind : a.kind ∉ functionKinds) (name : String) :
    Option.Rel (SameOutside s₁ s₂) (a.child? name) (b.child? name) :=
  optionRel_imp (CorpusShape.rel_child? (fun _ _ hcd => hcd.1.head) (h.children hkind) name) fun _ _ hcd => hcd.1.1

theorem rel_plainChild? (h : SameOutside s₁ s₂ a b) (hkind : a.kind ∉ functionKinds) (name : String)
    (hplain : ∀ c : Node, c.field = some name → isPlainPart a c = true) :
    Option.Rel (Alike s₁ s₂) (a.child? name) (b.child? name) :=
  optionRel_imp (CorpusShape.rel_child? (fun _ _ hcd => hcd.1.head) (h.children hkind) name) fun c _ hcd =>
    hcd.1.2 (hplain c hcd.2)

theorem forall₂_namedChildren (h : SameOutside s₁ s₂ a b) (hkind : a.kind ∉ functionKinds) :
    List.Forall₂ (SameOutside s₁ s₂) a.namedChildren b.namedChildren :=
  (CorpusShape.forall₂_namedChildren (fun _ _ hcd => hcd.1.head) (h.children hkind)).imp fun _ _ hcd => hcd.1

theorem text_of_name (h : SameOutside s₁ s₂ a b) (hkind : a.kind ∈ nameKinds) : s₁.textOf a = s₂.textOf b := by
  cases h with
  | function _ hfunction =>
    have hnone : ∀ kind ∈ functionKinds, kind ∉ nameKinds := by decide
    exact absurd hkind (hnone _ hfunction)
  | other _ htext => exact htext hkind

theorem name_of_declaration (h : SameOutside s₁ s₂ a b) (hkind : a.kind ∈ namedDeclarationKinds) :
    (a.child? "name").map s₁.textOf = (b.child? "name").map s₂.textOf := by
  cases h with
  | function _ _ hname => exact hname hkind
  | other hhead _ hchildren hplain =>
    have hname : Option.Rel (Alike s₁ s₂) (a.child? "name") (b.child? "name") := by
      refine optionRel_imp (CorpusShape.rel_child? (fun _ _ hcd => hcd.1.head) (forall₂_and hchildren hplain) "name")
        fun c d hcd => hcd.1.2 ?_
      simp [isPlainPart, nameHolderKinds, hcd.2, hkind]
    exact optionRel_map (optionRel_imp hname fun _ _ => Alike.text)

theorem text_of_property (h : SameOutside s₁ s₂ a b) (hkind : a.kind = "member_expression") :
    s₁.textOf? (a.child? "property") = s₂.textOf? (b.child? "property") := by
  have hopen : a.kind ∉ functionKinds := hkind ▸ by decide
  have hproperty := h.rel_plainChild? hopen "property" fun c hc => by simp [isPlainPart, hc, hkind]
  rw [textOf?_eq_getD, textOf?_eq_getD, optionRel_map (optionRel_imp hproperty fun _ _ => Alike.text)]

theorem mirrors (s₁ s₂ : Source) : Mirrors s₁ s₂ (SameOutside s₁ s₂) := by
  refine .of_children head (fun h hkind => ?_) text_of_name name_of_declaration text_of_property
  exact (h.children fun hfunction => hkind (List.mem_cons_of_mem _ hfunction)).imp fun _ _ hcd => hcd.1

theorem declaredNames (h : SameOutside s₁ s₂ a b) : declaredNames s₁ a = declaredNames s₂ b :=
  (mirrors s₁ s₂).declaredNames h

theorem patternNames? {x y : Option Node} (h : Option.Rel (SameOutside s₁ s₂) x y) :
    patternNames? s₁ x = patternNames? s₂ y :=
  (mirrors s₁ s₂).patternNames? h

end SameOutside

section Hoisting

theorem SameOutside.hoistStep (h : SameOutside s₁ s₂ a b) :
    (hoistStep s₁ a).1 = (hoistStep s₂ b).1 ∧
      List.Forall₂ (SameOutside s₁ s₂) (hoistStep s₁ a).2 (hoistStep s₂ b).2 := by
  by_cases hclosed : a.kind ∈ closedKinds
  · rw [hoistStep_of_closed s₁ hclosed, hoistStep_of_closed s₂ (h.head.kind ▸ hclosed), h.head.kind, h.declaredNames]
    exact ⟨rfl, .nil⟩
  have hopen : a.kind ∉ functionKinds := fun hkind => hclosed (List.mem_append_right _ hkind)
  by_cases hvariable : a.kind ∈ variableKinds
  · rw [hoistStep_of_variable s₁ hvariable, hoistStep_of_variable s₂ (h.head.kind ▸ hvariable), h.declaredNames]
    refine ⟨rfl, List.rel_filterMap (fun c d hcd => ?_)
      (CorpusShape.forall₂_namedChildren (fun _ _ hcd => hcd.1.head) (h.children hopen))⟩
    -- The initial value of a declarator is looked at; a function is no declarator.
    by_cases hfunction : c.kind ∈ functionKinds
    · have hplain : isPlainPart a c = true := by simp [isPlainPart, hvariable, hfunction]
      exact optionRel_imp ((hcd.2 hplain).rel_child? "value") fun _ _ => Alike.sameOutside
    · exact hcd.1.rel_child? hfunction "value"
  · rw [hoistStep_of_open s₁ hclosed hvariable, hoistStep_of_open s₂ (h.head.kind ▸ hclosed) (h.head.kind ▸ hvariable),
      h.head.kind, SameOutside.patternNames? (h.rel_child? hopen "left")]
    exact ⟨rfl, h.forall₂_namedChildren hopen⟩

theorem SameOutside.hoist (f : Frame) (h : List.Forall₂ (SameOutside s₁ s₂) a.namedChildren b.namedChildren) :
    hoist s₁ a f = hoist s₂ b f := by
  refine hoistPending_eq (R := SameOutside s₁ s₂) (p := fun _ => true) (fun _ _ hskip => by cases hskip)
    (fun c d hcd => ?_) f ?_
  · rw [List.filter_true, List.filter_true]
    exact hcd.hoistStep
  · rw [List.filter_true, List.filter_true]
    exact List.forall₂_reverse_iff.mpr h

end Hoisting

section Imports

/-- The last import clause of related import statements is the same. -/
theorem SameOutside.lastClause? (h : SameOutside s₁ s₂ a b) (hkind : a.kind = "import_statement") (kind : String)
    (hclause : kind ∈ ["import_clause", "import_require_clause"]) :
    Option.Rel (fun c d => Alike s₁ s₂ c d ∧ c.kind = kind) (lastChild? a kind) (lastChild? b kind) := by
  have hopen : a.kind ∉ functionKinds := by
    rw [hkind]
    decide
  have hlast := forall₂_find? (p := fun c => c.kind == kind) (q := fun d => d.kind == kind)
    (fun c d hcd => by rw [hcd.1.head.kind]) (List.forall₂_reverse_iff.mpr
      (CorpusShape.forall₂_namedChildren (fun _ _ hcd => hcd.1.head) (h.children hopen)))
  refine optionRel_imp hlast fun c d hcd => ⟨hcd.1.2 ?_, beq_iff_eq.mp hcd.2⟩
  simp only [isPlainPart, hkind, beq_iff_eq.mp hcd.2, List.contains_iff_mem.mpr hclause]
  simp

theorem SameOutside.importOf? (h : SameOutside s₁ s₂ a b) (hkind : a.kind = "import_statement") :
    Option.Rel SameImport (importOf? s₁ a) (importOf? s₂ b) := by
  have hopen : a.kind ∉ functionKinds := by
    rw [hkind]
    decide
  have hsource := h.rel_plainChild? hopen "source" fun c hc => by simp [isPlainPart, hc, hkind]
  exact (Alike.transcribes s₁ s₂).importOf? (h.lastClause? hkind) (optionRel_imp hsource fun _ _ => Alike.text)

end Imports

end CorpusShape
