import CorpusShape.Proofs.ClassShapes

/-!
# Modules of trees with the same code

Two modules have the same shape if they differ only in their texts and in the lines and bodies that they keep. Their
imports, exports and declarations are the same, and their calls correspond, with the same callees, scopes and classes
around them.
Sound trees with the same code give modules of the same shape. In particular comments change nothing, except where one
is read in the place of the code behind it.
-/
namespace CorpusShape

open Syntax

/-- The functions differ only in their lines and bodies. -/
structure SameFunction (x y : TopFunction) : Prop where
  name : x.name = y.name
  exported : x.exported = y.exported

/-- The calls have the same callee and see the same scope, and the classes around them are the same. -/
structure SameSite (x y : CallSite) : Prop extends SameCall x y where
  owner : Option.Rel SameClass x.owner y.owner

/-- The modules differ only in texts and lines. -/
structure Module.SameShape (m n : Module) : Prop where
  path : m.path = n.path
  imports : List.Forall₂ SameImport m.imports n.imports
  exports : m.exports = n.exports
  reexports : m.reexports = n.reexports
  functions : List.Forall₂ SameFunction m.functions n.functions
  classes : List.Forall₂ SameClass m.classes n.classes
  calls : List.Forall₂ SameSite m.calls n.calls
  members : m.members = n.members
  frame : m.frame = n.frame

variable {s₁ s₂ : Source} {a b : Node}

section Statements

theorem SameCode.specifierNames (h : SameCode s₁ s₂ a b) :
    specifierNames s₁ "export_specifier" a = specifierNames s₂ "export_specifier" b := by
  have hspells : ∀ name ∈ ["name", "alias"], spells "export_specifier" name = true := by decide
  exact specifierNames_eq "export_specifier" (fun _ _ => SameCode.head) h.forall₂_spoken (by decide)
    fun c d hcd hkind name hname => hcd.text_child? name (hkind ▸ hspells name hname)

section Exports
variable {m n : Module}

/-- Export statements with the same code take the same names over from another module. -/
theorem SameCode.addExport_of_source (h : SameCode s₁ s₂ a b) (hkind : a.kind = "export_statement") {from_ : Node}
    (hfrom : a.child? "source" = some from_) (hmn : m.SameShape n) :
    (m.addExport s₁ a).SameShape (n.addExport s₂ b) := by
  have hsource := h.rel_spelledChild? "source" (hkind ▸ by decide)
  have hclause := h.rel_namedChild? (by decide : "export_clause" ≠ "comment")
  have hspace := h.rel_namedChild? (by decide : "namespace_export" ≠ "comment")
  unfold Module.addExport
  rw [h.hasToken "*", hfrom, hmn.reexports]
  rw [hfrom] at hsource
  generalize b.child? "source" = y at hsource ⊢
  cases hsource with
  | some hsource =>
    dsimp only
    rw [hsource.2]
    generalize a.namedChild? "export_clause" = x at hclause ⊢
    generalize b.namedChild? "export_clause" = y at hclause ⊢
    cases hclause with
    | some hclause =>
      dsimp only
      rw [hclause.1.specifierNames]
      exact { hmn with reexports := rfl }
    | none =>
      generalize a.namedChild? "namespace_export" = x at hspace ⊢
      generalize b.namedChild? "namespace_export" = y at hspace ⊢
      cases hspace with
      | some hspace =>
        dsimp only
        rw [hspace.1.spelt.last hspace.2]
        exact { hmn with reexports := rfl }
      | none =>
        dsimp only
        split
        · exact { hmn with reexports := rfl }
        · exact hmn

/-- Export statements with the same code expose the same names of their own module. -/
theorem SameCode.addExport_of_none (h : SameCode s₁ s₂ a b) (hnone : a.child? "source" = none) (hmn : m.SameShape n) :
    (m.addExport s₁ a).SameShape (n.addExport s₂ b) := by
  have hsource := h.rel_child? "source"
  have hclause := h.rel_namedChild? (by decide : "export_clause" ≠ "comment")
  have hdeclaration := h.rel_child? "declaration"
  have hvalue := h.rel_child? "value"
  unfold Module.addExport
  rw [h.hasToken "default", hnone, hmn.exports]
  rw [hnone] at hsource
  generalize b.child? "source" = y at hsource ⊢
  cases hsource with
  | none =>
    dsimp only
    generalize a.child? "declaration" = x at hdeclaration ⊢
    generalize b.child? "declaration" = y at hdeclaration ⊢
    cases hdeclaration with
    | some hdeclaration =>
      dsimp only
      rw [(mirrors s₁ s₂).declaredNames hdeclaration]
      split <;> exact { hmn with exports := rfl }
    | none =>
      dsimp only
      split
      · generalize a.child? "value" = x at hvalue ⊢
        generalize b.child? "value" = y at hvalue ⊢
        cases hvalue with
        | none => exact { hmn with exports := rfl }
        | some hvalue =>
          dsimp only
          rw [hvalue.head.kind]
          split
          · rename_i hidentifier
            rw [hvalue.spelt.own (beq_iff_eq.mp hidentifier ▸ by decide)]
            exact { hmn with exports := rfl }
          · exact { hmn with exports := rfl }
      · generalize a.namedChild? "export_clause" = x at hclause ⊢
        generalize b.namedChild? "export_clause" = y at hclause ⊢
        cases hclause with
        | none => exact { hmn with exports := rfl }
        | some hclause =>
          dsimp only
          rw [hclause.1.specifierNames]
          exact { hmn with exports := rfl }

end Exports

theorem addStatement_of_isComment (src : Source) (m : Module) (n : Node) (h : n.isComment = true) :
    m.addStatement src n = m := by
  unfold Module.addStatement
  rw [(isComment_iff.mp h).1]
  rfl

theorem SameCode.addStatement {m n : Module} (h : SameCode s₁ s₂ a b) (hmn : m.SameShape n) :
    (m.addStatement s₁ a).SameShape (n.addStatement s₂ b) := by
  unfold Module.addStatement
  rw [h.head.kind]
  split
  · rename_i hkind
    have himport := h.importOf? (beq_iff_eq.mp hkind)
    generalize CorpusShape.importOf? s₁ a = x at himport ⊢
    generalize CorpusShape.importOf? s₂ b = y at himport ⊢
    cases himport with
    | none => exact hmn
    | some hij =>
      dsimp only
      rw [hmn.frame, hij.bindImport]
      exact { hmn with imports := List.rel_append hmn.imports (.cons hij .nil), frame := rfl }
  split
  · rename_i hkind
    cases hsource : a.child? "source" with
    | none => exact h.addExport_of_none hsource hmn
    | some from_ => exact h.addExport_of_source (beq_iff_eq.mp hkind) hsource hmn
  · exact hmn

theorem SameCode.topFunction (h : SameCode s₁ s₂ a b) (locals : List String) (exported : Bool)
    (hkind : a.kind ∈ ["function_declaration", "generator_function_declaration"]) :
    SameFunction (topFunction s₁ locals exported a) (topFunction s₂ locals exported b) := by
  have hspells : ∀ kind ∈ ["function_declaration", "generator_function_declaration"], spells kind "name" = true := by
    decide
  have hname := optionRel_of_map (h.text_child? "name" (hspells _ hkind))
  unfold CorpusShape.topFunction
  generalize a.child? "name" = x at hname ⊢
  generalize b.child? "name" = y at hname ⊢
  cases hname with
  | none => exact ⟨rfl, rfl⟩
  | some hname =>
    dsimp only
    rw [hname]
    exact ⟨rfl, rfl⟩

theorem addTop_of_isComment (src : Source) (locals : List String) (m : Module) (n : Node) (h : n.isComment = true) :
    m.addTop src locals n = m := by
  simp [Module.addTop, (isComment_iff.mp h).1, classKinds]

theorem SameCode.addTop {m n : Module} (locals : List String) (h : SameCode s₁ s₂ a b) (hmn : m.SameShape n) :
    (m.addTop s₁ locals a).SameShape (n.addTop s₂ locals b) := by
  have hinner : Option.Rel (SameCode s₁ s₂)
      (if a.kind == "export_statement" then a.child? "declaration" <|> a.child? "value" else some a)
      (if a.kind == "export_statement" then b.child? "declaration" <|> b.child? "value" else some b) := by
    split
    · exact optionRel_orElse (h.rel_child? "declaration") (h.rel_child? "value")
    · exact .some h
  unfold Module.addTop
  dsimp only
  rw [h.head.kind]
  generalize (if a.kind == "export_statement" then a.child? "declaration" <|> a.child? "value" else some a) = x
    at hinner ⊢
  generalize (if a.kind == "export_statement" then b.child? "declaration" <|> b.child? "value" else some b) = y
    at hinner ⊢
  cases hinner with
  | none => exact hmn
  | some hcd =>
    dsimp only
    rw [hcd.head.kind]
    split
    · exact { hmn with functions := List.rel_append hmn.functions (.cons ⟨rfl, rfl⟩ .nil) }
    split
    · rename_i hkind
      have hfunction := hcd.topFunction locals (a.kind == "export_statement") (List.contains_iff_mem.mp hkind)
      exact { hmn with functions := List.rel_append hmn.functions (.cons hfunction .nil) }
    split
    · rename_i hkind
      have hclass := hcd.classShape (List.contains_iff_mem.mp hkind) [n.frame]
      rw [hmn.frame]
      exact { hmn with classes := List.rel_append hmn.classes (.cons hclass .nil), frame := rfl }
    · exact hmn

theorem SameCode.foldl_addStatement {m n : Module} (h : SameCode s₁ s₂ a b) (hmn : m.SameShape n) :
    Module.SameShape (a.namedChildren.foldl (Module.addStatement s₁) m)
      (b.namedChildren.foldl (Module.addStatement s₂) n) := by
  rw [← foldl_without (addStatement_of_isComment s₁), ← foldl_without (addStatement_of_isComment s₂)]
  exact List.rel_foldl (P := Module.SameShape) (fun _ _ hmn _ _ hcd => hcd.addStatement hmn) hmn h.forall₂_named

theorem SameCode.foldl_addTop {m n : Module} (h : SameCode s₁ s₂ a b) (locals : List String) (hmn : m.SameShape n) :
    Module.SameShape (a.namedChildren.foldl (Module.addTop s₁ locals) m)
      (b.namedChildren.foldl (Module.addTop s₂ locals) n) := by
  rw [← foldl_without (addTop_of_isComment s₁ locals), ← foldl_without (addTop_of_isComment s₂ locals)]
  exact List.rel_foldl (P := Module.SameShape) (fun _ _ hmn _ _ hcd => hcd.addTop locals hmn) hmn h.forall₂_named

end Statements

section Places

/-- Two places whose nodes have the same code, inside nodes that have. -/
structure SameSpot (s₁ s₂ : Source) (p q : Place) : Prop where
  node : SameCode s₁ s₂ p.node q.node
  around : List.Forall₂ (SameCode s₁ s₂) p.around q.around

theorem scopeInside_eq {up₁ up₂ : List Node} (h : List.Forall₂ (SameCode s₁ s₂) up₁ up₂) (frame : Frame) :
    scopeInside s₁ frame up₁ = scopeInside s₂ frame up₂ := by
  induction h with
  | nil => rfl
  | cons hab _ ih => rw [scopeInside_cons, scopeInside_cons, hab.openedFrame?, ih]

theorem rel_ownerInside {up₁ up₂ : List Node} (h : List.Forall₂ (SameCode s₁ s₂) up₁ up₂) (frame : Frame) :
    Option.Rel SameClass (ownerInside s₁ frame up₁) (ownerInside s₂ frame up₂) := by
  induction h with
  | nil => exact .none
  | cons hab hup ih =>
    rw [ownerInside, ownerInside, hab.head.kind]
    split
    · rename_i hkind
      rw [scopeInside_eq hup]
      exact .some (hab.classShape (List.contains_iff_mem.mp hkind) _)
    · exact ih

def codePlaces (places : List Place) : List Place := places.filter fun p => !(p.node.kind == "comment")

theorem codePlaces_flatMap (up ns : List Node) :
    codePlaces (ns.flatMap (placesOf up)) = (ns.filter (!·.isComment)).flatMap fun c => codePlaces (placesOf up c) := by
  rw [flatMap_without fun c hc => ?_]
  · exact List.filter_flatMap
  · obtain ⟨hkind, -, -, -, hchildren⟩ := isComment_iff.mp hc
    rw [placesOf_eq, Node.namedChildren, hchildren]
    simp [codePlaces, hkind]

/-- Apart from comments the places of two trees with the same code correspond. -/
theorem SameCode.places {up₁ up₂ : List Node} (h : SameCode s₁ s₂ a b) (hup : List.Forall₂ (SameCode s₁ s₂) up₁ up₂) :
    List.Forall₂ (SameSpot s₁ s₂) (codePlaces (placesOf up₁ a)) (codePlaces (placesOf up₂ b)) := by
  induction a using Node.inductionOn generalizing b up₁ up₂ with
  | h a ih =>
    have hinner := forall₂_imp_of_mem h.forall₂_named fun c hc d hcd =>
      ih c (List.mem_of_mem_filter (List.mem_of_mem_filter hc)) hcd (.cons h hup)
    have hrest : List.Forall₂ (SameSpot s₁ s₂) (codePlaces (a.namedChildren.flatMap (placesOf (a :: up₁))))
        (codePlaces (b.namedChildren.flatMap (placesOf (b :: up₂)))) := by
      rw [codePlaces_flatMap, codePlaces_flatMap]
      exact List.rel_flatMap hinner fun _ _ hplaces => hplaces
    rw [placesOf_eq, placesOf_eq up₂]
    unfold codePlaces at hrest ⊢
    rw [List.filter_cons, List.filter_cons, h.head.kind]
    split
    · exact .cons ⟨h, hup⟩ hrest
    · exact hrest

theorem SameSpot.call? {p q : Place} (h : SameSpot s₁ s₂ p q) (frame : Frame) :
    Option.Rel SameSite (p.call? s₁ frame) (q.call? s₂ frame) := by
  have hsame := (SameCode.mirrors s₁ s₂).isCall h.node
  by_cases hcall : isCall p.node = true
  · have hopen : p.node.kind ∉ sealedKinds := by
      rw [beq_iff_eq.mp (Bool.and_eq_true_iff.mp hcall).1]
      decide
    rw [Place.call?_of_isCall s₁ frame hcall, Place.call?_of_isCall s₂ frame (hsame ▸ hcall),
      (SameCode.mirrors s₁ s₂).calleeAt h.node hopen, scopeInside_eq h.around]
    exact .some ⟨⟨rfl, rfl, rfl, rfl⟩, rel_ownerInside h.around frame⟩
  · rw [Place.call?_of_not_isCall s₁ frame hcall, Place.call?_of_not_isCall s₂ frame (hsame ▸ hcall)]
    exact .none

theorem SameSpot.members {p q : Place} (h : SameSpot s₁ s₂ p q) (frame : Frame) :
    p.members s₁ frame = q.members s₂ frame := by
  unfold Place.members membersAt surroundingsInside
  dsimp only
  rw [h.node.head.kind, scopeInside_eq h.around]
  split
  · rfl
  split
  · rename_i hkind
    exact (h.node.classShape (List.contains_iff_mem.mp hkind) _).members
  split
  · exact h.node.objectKeys
  · rfl

theorem call?_of_comment (src : Source) (frame : Frame) (p : Place) (h : (p.node.kind == "comment") = true) :
    p.call? src frame = none := by
  refine Place.call?_of_not_isCall src frame ?_
  simp [isCall, beq_iff_eq.mp h]

theorem members_of_comment (src : Source) (frame : Frame) (p : Place) (h : (p.node.kind == "comment") = true) :
    p.members src frame = [] := by
  unfold Place.members membersAt
  rw [beq_iff_eq.mp h]
  rfl

end Places

section Extraction
variable {text₁ text₂ : String}

/-- The imports, exports, functions and classes that trees with the same code give, before their calls are listed. -/
theorem SameCode.declarations (path : String) (h : SameCode (.ofString text₁) (.ofString text₂) a b) :
    Module.SameShape { extract path text₁ a with calls := [], members := [] }
      { extract path text₂ b with calls := [], members := [] } := by
  have hstart : Module.SameShape { path, text := text₁ } { path, text := text₂ } :=
    ⟨rfl, .nil, rfl, rfl, .nil, .nil, .nil, rfl, rfl⟩
  have hstatements := h.foldl_addStatement hstart
  unfold CorpusShape.extract
  dsimp only
  generalize a.namedChildren.foldl (Module.addStatement (.ofString text₁)) _ = m at hstatements ⊢
  generalize b.namedChildren.foldl (Module.addStatement (.ofString text₂)) _ = n at hstatements ⊢
  have hhoisted : Module.SameShape { m with frame := CorpusShape.hoist (.ofString text₁) a m.frame }
      { n with frame := CorpusShape.hoist (.ofString text₂) b n.frame } := by
    rw [h.hoist, hstatements.frame]
    exact { hstatements with frame := rfl }
  rw [hstatements.exports] at hhoisted ⊢
  exact { h.foldl_addTop _ hhoisted with calls := .nil, members := rfl }

/-- Trees with the same code give modules of the same shape. -/
theorem SameCode.extract (path : String) (h : SameCode (.ofString text₁) (.ofString text₂) a b) :
    (extract path text₁ a).SameShape (extract path text₂ b) := by
  have hdeclarations := h.declarations path
  have hframe : (CorpusShape.extract path text₁ a).frame = (CorpusShape.extract path text₂ b).frame :=
    hdeclarations.frame
  have hplaces := h.places .nil
  refine { hdeclarations with calls := ?_, members := ?_ }
  · rw [calls_extract, calls_extract, hframe, ← filterMap_without (call?_of_comment (.ofString text₁) _),
      ← filterMap_without (call?_of_comment (.ofString text₂) _)]
    exact List.rel_filterMap (fun p q (hpq : SameSpot _ _ p q) => hpq.call? _) hplaces
  · rw [members_extract, members_extract, hframe, ← flatMap_without (members_of_comment (.ofString text₁) _),
      ← flatMap_without (members_of_comment (.ofString text₂) _)]
    exact flatMap_eq_of_forall₂ hplaces fun p _ q hpq => hpq.members _

/-- Two sound trees that differ only in where their nodes stand and in comments that are not read give modules which
differ only in texts and lines. -/
theorem comments_keep_module_shape {root₁ root₂ : Node} (path : String) (hsound : root₁.hasFault = false)
    (hcode : SameCode (.ofString text₁) (.ofString text₂) root₁ root₂) :
    ∃ m₁ m₂, Module.ofTree path text₁ root₁ = .ok m₁ ∧ Module.ofTree path text₂ root₂ = .ok m₂ ∧ m₁.SameShape m₂ :=
  ⟨_, _, ofTree_eq_ok hsound path text₁, ofTree_eq_ok (hcode.hasFault ▸ hsound) path text₂, hcode.extract path⟩

/-- The tree of a call of `f`, which stands at the byte `o` inside parentheses that end after the byte `e`. -/
def parenthesizedCall (o e : Nat) (before after : List Node) : Node :=
  .branch "program" 0 (e + 3) [.branch "expression_statement" 0 (e + 3) [.branch "call_expression" 0 (e + 3)
    [(Node.branch "parenthesized_expression" 0 (e + 1) ([.token "(" 0 1] ++ before ++ [.leaf "identifier" o (o + 1)] ++
        after ++ [.token ")" e (e + 1)])).inField "function",
      (Node.branch "arguments" (e + 1) (e + 3) [.token "(" (e + 1) (e + 2), .token ")" (e + 2) (e + 3)]).inField
        "arguments"]]]

theorem sameCode_parenthesizedCall :
    SameCode (.ofString "(f)()") (.ofString "(f/**/)()") (parenthesizedCall 1 2 [] [])
      (parenthesizedCall 1 6 [] [.leaf "comment" 2 6]) := by
  refine .intro ⟨rfl, rfl, rfl⟩ rfl (.of_unread (by decide) (by decide) (by decide)) (by decide) (.cons ?_ .nil)
  refine .intro ⟨rfl, rfl, rfl⟩ rfl (.of_unread (by decide) (by decide) (by decide)) (by decide) (.cons ?_ .nil)
  refine .intro ⟨rfl, rfl, rfl⟩ rfl (.of_unread (by decide) (by decide) (by decide)) (by decide)
    (.cons ?_ (.cons ?_ .nil))
  · -- The comment stands behind the name, so that the name is still the first named child.
    refine .intro ⟨rfl, rfl, rfl⟩ rfl (.of_unread (by decide) (by decide) (by decide)) (by decide)
      (.cons (.of_token (by decide) _ _ _ _) (.cons ?_ (.cons (.of_token (by decide) _ _ _ _) .nil)))
    exact .intro ⟨rfl, rfl, rfl⟩ rfl (by decide) (by decide) .nil
  · exact .intro ⟨rfl, rfl, rfl⟩ rfl (.of_unread (by decide) (by decide) (by decide)) (by decide)
      (.cons (.of_token (by decide) _ _ _ _) (.cons (.of_token (by decide) _ _ _ _) .nil))

theorem comments_keep_module_shape_parenthesizedCall :
    let root₁ := parenthesizedCall 1 2 [] []
    let root₂ := parenthesizedCall 1 6 [] [.leaf "comment" 2 6]
    root₁.hasFault = false ∧ SameCode (.ofString "(f)()") (.ofString "(f/**/)()") root₁ root₂ ∧
      ∃ m₁ m₂, Module.ofTree "a.ts" "(f)()" root₁ = .ok m₁ ∧ Module.ofTree "a.ts" "(f/**/)()" root₂ = .ok m₂ ∧
        m₁.SameShape m₂ := by
  intro root₁ root₂
  have hsound : root₁.hasFault = false := by decide
  exact ⟨hsound, sameCode_parenthesizedCall, comments_keep_module_shape "a.ts" hsound sameCode_parenthesizedCall⟩

/-- A comment that stands before a callee in parentheses is taken for the callee. -/
theorem comment_hides_callee :
    let root₁ := parenthesizedCall 1 2 [] []
    let root₂ := parenthesizedCall 5 6 [.leaf "comment" 1 5] []
    root₁.hasFault = false ∧ root₂.hasFault = false ∧
      ∃ m₁ m₂, Module.ofTree "a.ts" "(f)()" root₁ = .ok m₁ ∧ Module.ofTree "a.ts" "(/**/f)()" root₂ = .ok m₂ ∧
        m₁.calls.map CallSite.callee = [{ kind := .name, root := some "f" }] ∧
        m₂.calls.map CallSite.callee = [{ kind := .other }] := by
  intro root₁ root₂
  have hsound₁ : root₁.hasFault = false := by decide
  have hsound₂ : root₂.hasFault = false := by decide
  refine ⟨hsound₁, hsound₂, _, _, ofTree_eq_ok hsound₁ "a.ts" _, ofTree_eq_ok hsound₂ "a.ts" _, ?_, ?_⟩
  · rw [calls_extract]
    decide
  · rw [calls_extract]
    decide

end Extraction

end CorpusShape
