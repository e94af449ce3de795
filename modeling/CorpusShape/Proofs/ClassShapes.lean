import CorpusShape.Proofs.CommentedTrees

/-!
# Classes and objects of trees with the same code

Class nodes with the same code, which stand in the same scope, are classes of one shape: they have the same name and
base, and members of the same names and accessibilities. Object literals with the same code have the same keys.
-/
namespace CorpusShape

open Syntax

/-- The methods differ only in their lines and bodies. -/
structure SameMethod (x y : Method) : Prop where
  name : x.name = y.name
  accessibility : x.accessibility = y.accessibility

/-- The classes differ only in their lines and in those and the bodies of their methods. -/
structure SameClass (x y : ClassShape) : Prop where
  name : x.name = y.name
  methods : List.Forall₂ SameMethod x.methods y.methods
  propertyCount : x.propertyCount = y.propertyCount
  constructorCount : x.constructorCount = y.constructorCount
  members : x.members = y.members
  base : x.base = y.base
  scope : x.scope = y.scope

variable {s₁ s₂ : Source} {a b : Node}

theorem textOf?_of_rel {x y : Option Node} (h : Option.Rel (fun c d => s₁.textOf c = s₂.textOf d) x y) :
    s₁.textOf? x = s₂.textOf? y := by
  rw [textOf?_eq_getD, textOf?_eq_getD, optionRel_map h]

section Classes

def heritageExpression? (heritage : Node) : Option Node :=
  match heritage.namedChild? "extends_clause" with
  | some clause => clause.child? "value" <|> clause.namedChildren.head?
  | none => heritage.namedChildren.head?.filter (·.kind != "implements_clause")

def leftmostName? (src : Source) (e : Node) : Option String :=
  match (memberChain src e).1 with
  | some root => if root.kind == "identifier" then some (src.textOf root) else none
  | none => none

theorem heritageBase_eq (src : Source) (heritage : Node) :
    heritageBase src heritage = (heritageExpression? heritage).bind (leftmostName? src) := by
  unfold heritageBase heritageExpression?
  cases heritage.namedChild? "extends_clause" with
  | none =>
    dsimp only
    cases heritage.namedChildren.head?.filter (·.kind != "implements_clause") with
    | none => rfl
    | some e => rfl
  | some clause =>
    dsimp only
    cases (clause.child? "value" <|> clause.namedChildren.head?) with
    | none => rfl
    | some e => rfl

/-- A clause without a value is read for its first named child. -/
theorem SameCode.rel_extended (h : SameCode s₁ s₂ a b) (hkind : a.kind = "extends_clause") :
    Option.Rel (SameCode s₁ s₂) (a.child? "value" <|> a.namedChildren.head?)
      (b.child? "value" <|> b.namedChildren.head?) := by
  have hvalue := h.rel_child? "value"
  cases hx : a.child? "value" with
  | some c =>
    rw [hx] at hvalue
    generalize b.child? "value" = y at hvalue ⊢
    cases hvalue with
    | some hcd => exact .some hcd
  | none =>
    have hreads : a.readsFirst = true := by simp [Node.readsFirst, hkind, hx]
    rw [hx] at hvalue
    generalize b.child? "value" = y at hvalue ⊢
    cases hvalue with
    | none => exact h.rel_first hreads

theorem SameCode.rel_heritageExpression? (h : SameCode s₁ s₂ a b) (hkind : a.kind = "class_heritage") :
    Option.Rel (SameCode s₁ s₂) (heritageExpression? a) (heritageExpression? b) := by
  have hclause := h.rel_namedChild? (by decide : "extends_clause" ≠ "comment")
  unfold heritageExpression?
  cases hx : a.namedChild? "extends_clause" with
  | some c =>
    rw [hx] at hclause
    generalize b.namedChild? "extends_clause" = y at hclause ⊢
    cases hclause with
    | some hcd => exact hcd.1.rel_extended hcd.2
  | none =>
    have hfirst := h.rel_first (by simp [Node.readsFirst, hkind, hx])
    rw [hx] at hclause
    generalize b.namedChild? "extends_clause" = y at hclause ⊢
    cases hclause with
    | none =>
      dsimp only
      generalize a.namedChildren.head? = x at hfirst ⊢
      generalize b.namedChildren.head? = y at hfirst ⊢
      cases hfirst with
      | none => exact .none
      | some hcd =>
        rw [Option.filter_some, Option.filter_some, hcd.head.kind]
        split
        · exact .some hcd
        · exact .none

theorem SameCode.leftmostName? (h : SameCode s₁ s₂ a b) : leftmostName? s₁ a = leftmostName? s₂ b := by
  have hroot := ((mirrors s₁ s₂).memberChain h).1
  unfold CorpusShape.leftmostName?
  generalize (memberChain s₁ a).1 = x at hroot ⊢
  generalize (memberChain s₂ b).1 = y at hroot ⊢
  cases hroot with
  | none => rfl
  | some hroot =>
    dsimp only
    rw [hroot.head.kind]
    split
    · rename_i hkind
      rw [hroot.spelt.own (beq_iff_eq.mp hkind ▸ by decide)]
    · rfl

theorem SameCode.heritageBase (h : SameCode s₁ s₂ a b) (hkind : a.kind = "class_heritage") :
    heritageBase s₁ a = heritageBase s₂ b := by
  rw [heritageBase_eq, heritageBase_eq]
  exact optionRel_bind (h.rel_heritageExpression? hkind) fun _ _ => SameCode.leftmostName?

theorem SameCode.parameterFields {x y : Option Node} (h : Option.Rel (SameCode s₁ s₂) x y) :
    parameterFields s₁ x = parameterFields s₂ y := by
  cases h with
  | none => rfl
  | @some a b h =>
    have hfield : ∀ c : Node, (c.namedChild? "accessibility_modifier").isSome = true → c.isComment = false := by
      intro c hc
      refine Bool.eq_false_iff.mpr fun hcomment => ?_
      rw [namedChild?_of_isComment hcomment] at hc
      cases hc
    unfold CorpusShape.parameterFields
    dsimp only
    rw [← filter_code hfield a.namedChildren, ← filter_code hfield b.namedChildren]
    refine flatMap_eq_of_forall₂ (forall₂_filter (fun c d hcd => ?_) h.forall₂_named) fun c _ d hcd =>
      (mirrors s₁ s₂).patternNames hcd
    have hmodifier := hcd.rel_namedChild? (by decide : "accessibility_modifier" ≠ "comment")
    generalize c.namedChild? "accessibility_modifier" = x at hmodifier ⊢
    generalize d.namedChild? "accessibility_modifier" = y at hmodifier ⊢
    cases hmodifier with
    | none => rfl
    | some => rfl

theorem addMember_of_isComment (src : Source) (x : ClassShape) (n : Node) (h : n.isComment = true) :
    x.addMember src n = x := by
  unfold ClassShape.addMember
  rw [(isComment_iff.mp h).1]
  rfl

theorem SameCode.addMember {x y : ClassShape} (h : SameCode s₁ s₂ a b) (hxy : SameClass x y) :
    SameClass (x.addMember s₁ a) (y.addMember s₂ b) := by
  have hspells : ∀ kind ∈ memberKinds, spells kind "name" = true := by decide
  unfold ClassShape.addMember
  rw [h.head.kind]
  split
  · rename_i hkind
    have hfield : a.kind ∈ fieldKinds := by simpa [fieldKinds] using hkind
    have hproperty : ∀ kind ∈ fieldKinds, spells kind "property" = true := by decide
    have hname := textOf?_of_rel (optionRel_orElse
      (optionRel_of_map (h.text_child? "name" (hspells _ (List.mem_append_left _ hfield))))
      (optionRel_of_map (h.text_child? "property" (hproperty _ hfield))))
    dsimp only
    rw [hname]
    exact { hxy with members := congrArg (· ++ _) hxy.members, propertyCount := congrArg (· + 1) hxy.propertyCount }
  dsimp only
  split
  · rename_i hkind
    rw [h.textOf?_child "name" (beq_iff_eq.mp hkind ▸ by decide)]
    exact { hxy with members := congrArg (· ++ _) hxy.members }
  split
  · rename_i hkind
    have hmethod : a.kind ∈ memberKinds := by
      rcases Bool.or_eq_true_iff.mp hkind with hkind | hkind <;> simp [memberKinds, beq_iff_eq.mp hkind]
    have hmodifier := optionRel_map (optionRel_imp
      (h.rel_namedChild? (by decide : "accessibility_modifier" ≠ "comment")) fun c d hcd =>
        hcd.1.spelt.own (hcd.2 ▸ by decide))
    rw [h.textOf?_child "name" (hspells _ hmethod), h.hasToken "get", h.hasToken "set",
      SameCode.parameterFields (h.rel_child? "parameters")]
    split
    · exact { hxy with
        constructorCount := congrArg (· + 1) hxy.constructorCount, members := congrArg (· ++ _ ++ _) hxy.members }
    split
    · exact { hxy with members := congrArg (· ++ _) hxy.members }
    · exact { hxy with
        members := congrArg (· ++ _) hxy.members, methods := List.rel_append hxy.methods (.cons ⟨rfl, hmodifier⟩ .nil) }
  · exact hxy

/-- Class nodes with the same code, which stand in the same scope, are classes of one shape. -/
theorem SameCode.classShape (h : SameCode s₁ s₂ a b) (hkind : a.kind ∈ classKinds) (scope : Scope) :
    SameClass (classShape s₁ scope a) (classShape s₂ scope b) := by
  have hspells : ∀ kind ∈ classKinds, spells kind "name" = true := by decide
  have hbase : (a.namedChild? "class_heritage").bind (CorpusShape.heritageBase s₁) =
      (b.namedChild? "class_heritage").bind (CorpusShape.heritageBase s₂) :=
    optionRel_bind (h.rel_namedChild? (by decide)) fun c d hcd => hcd.1.heritageBase hcd.2
  have hbody := h.rel_child? "body"
  unfold CorpusShape.classShape
  dsimp only
  rw [h.text_child? "name" (hspells _ hkind), hbase]
  generalize a.child? "body" = x at hbody ⊢
  generalize b.child? "body" = y at hbody ⊢
  cases hbody with
  | none => exact ⟨rfl, .nil, rfl, rfl, rfl, rfl, rfl⟩
  | some hbody =>
    dsimp only
    rw [← foldl_without (addMember_of_isComment s₁), ← foldl_without (addMember_of_isComment s₂)]
    refine List.rel_foldl (P := SameClass) (fun _ _ hxy _ _ hcd => hcd.addMember hxy) ?_ hbody.forall₂_named
    exact ⟨rfl, .nil, rfl, rfl, rfl, rfl, rfl⟩

end Classes

section Objects

theorem objectKey?_of_isComment (src : Source) (n : Node) (h : n.isComment = true) : objectKey? src n = none := by
  unfold objectKey?
  rw [(isComment_iff.mp h).1]
  rfl

theorem SameCode.rel_keyNode? (h : SameCode s₁ s₂ a b) :
    Option.Rel (fun c d => SameCode s₁ s₂ c d ∧ s₁.textOf c = s₂.textOf d) (keyNode? a) (keyNode? b) := by
  unfold keyNode?
  rw [h.head.kind]
  split
  · rename_i hkind
    exact h.rel_spelledChild? "key" (beq_iff_eq.mp hkind ▸ by decide)
  split
  · rename_i hkind
    exact h.rel_spelledChild? "name" (beq_iff_eq.mp hkind ▸ by decide)
  · exact .none

theorem SameCode.objectKey? (h : SameCode s₁ s₂ a b) : objectKey? s₁ a = objectKey? s₂ b := by
  rw [objectKey?_eq, objectKey?_eq, h.head.kind]
  split
  · rename_i hkind
    rw [h.spelt.own (beq_iff_eq.mp hkind ▸ by decide)]
  · exact optionRel_bind h.rel_keyNode? fun c d hcd => by rw [keyText?, keyText?, hcd.1.head.kind, hcd.2]

theorem SameCode.objectKeys (h : SameCode s₁ s₂ a b) : objectKeys s₁ a = objectKeys s₂ b := by
  unfold CorpusShape.objectKeys
  rw [← filterMap_without (objectKey?_of_isComment s₁), ← filterMap_without (objectKey?_of_isComment s₂),
    List.filterMap_eq_flatMap_toList, List.filterMap_eq_flatMap_toList]
  exact flatMap_eq_of_forall₂ h.forall₂_named fun c _ d hcd => by rw [hcd.objectKey?]

end Objects

end CorpusShape
