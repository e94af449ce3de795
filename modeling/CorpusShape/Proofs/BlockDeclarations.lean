import CorpusShape.Proofs.DroppedStatements

/-!
# What a declaration inside a block decides

There are no scopes of blocks: hoisting carries a declaration of a block to the scope of the nearest function around it,
or of the module, and there it takes the place of what is imported under the same name. A declaration decides what a name
is bound to for a call, inside or outside the block, exactly if it is carried to a scope that the call sees and no
nearer scope binds the name. The name is then bound to a declaration of the module itself; else dropping the declaration
leaves what the name is bound to as it is.
-/
namespace CorpusShape

open Syntax

/-- Going outwards through the given nodes, the first scope that binds the name is one to which the declaration `d` is
carried. -/
inductive Decides (src : Source) (root d : Node) (x : String) : List Node → Prop
  | module : LooksAt root d → Decides src root d x []
  | function {f : Node} {outer : List Node} : Carries d f → Decides src root d x (f :: outer)
  | outward {n : Node} {outer : List Node} : ¬BindsInside src n x → Decides src root d x outer →
      Decides src root d x (n :: outer)

variable {s₁ s₂ : Source} {d a b : Node} {x : String}

section Lookup

theorem BindsInside.opensScope {src : Source} {n : Node} (h : BindsInside src n x) : opensScope n = true := by
  have hexpression : ∀ kind ∈ functionExpressionKinds, kind ∈ functionKinds := by decide
  cases h with
  | own hkind => simp [CorpusShape.opensScope, hexpression _ hkind]
  | parameter hkind => simp [CorpusShape.opensScope, hkind]
  | hoisted hkind => simp [CorpusShape.opensScope, hkind]
  | caught hkind => simp [CorpusShape.opensScope, hkind]

theorem bindsInside_iff {src : Source} {n : Node} :
    BindsInside src n x ↔ ∃ frame, openedFrame? src n = some frame ∧ frame.get? x ≠ none := by
  constructor
  · intro h
    obtain ⟨frame, hframe, hbinds⟩ := openedFrame?_of_opensScope src h.opensScope
    exact ⟨frame, hframe, by simp [(hbinds x).1 h]⟩
  · rintro ⟨frame, hframe, hx⟩
    by_cases hopens : opensScope n = true
    · obtain ⟨frame', hframe', hbinds⟩ := openedFrame?_of_opensScope src hopens
      cases hframe.symm.trans hframe'
      exact not_not.mp fun h => hx ((hbinds x).2 h)
    · cases hframe.symm.trans (openedFrame?_of_not_opensScope hopens)

theorem lookup_of_decides {src : Source} {root : Node} {frame : Frame} {around : List Node}
    (hd : DeclaresHere src d x) (hframe : LooksAt root d → frame.get? x = some .declared)
    (h : Decides src root d x around) : (scopeInside src frame around).lookup x = some .declared := by
  induction h with
  | module hlooks =>
    have hx := hframe hlooks
    simp [scopeInside, Scope.lookup, hx]
  | function hcarries =>
    obtain ⟨body, hbody, hlooks⟩ := hcarries
    obtain ⟨inner, hinner, hx⟩ := openedFrame?_of_looksAt hbody hlooks hd
    rw [scopeInside_of_some hinner, Scope.lookup, hx]
  | @outward n outer hbinds _ ih =>
    cases hinner : openedFrame? src n with
    | none => rw [scopeInside_of_none hinner, ih]
    | some inner =>
      have hx : inner.get? x = none := not_not.mp fun hx => hbinds (bindsInside_iff.mpr ⟨inner, hinner, hx⟩)
      rw [scopeInside_of_some hinner, Scope.lookup, hx, ih]

/-- If the declaration does not decide, the name is found as it is without the declaration. -/
theorem lookup_of_not_decides {root : Node} {f₁ f₂ : Frame} {up₁ up₂ : List Node}
    (hup : List.Forall₂ (Trimmed s₁ s₂ d) up₁ up₂) (hd : DeclaresHere s₁ d x)
    (hframe : ¬LooksAt root d → f₁.get? x = f₂.get? x) (h : ¬Decides s₁ root d x up₁) :
    (scopeInside s₁ f₁ up₁).lookup x = (scopeInside s₂ f₂ up₂).lookup x := by
  induction hup with
  | nil =>
    have hx := hframe fun hlooks => h (.module hlooks)
    simp [scopeInside, Scope.lookup, hx]
  | @cons n n' up₁ up₂ hn _ ih =>
    have hopened := hn.openedFrame? hd fun hcarries => h (.function hcarries)
    have houter : ¬BindsInside s₁ n x → ¬Decides s₁ root d x up₁ := fun hbinds hdecides => h (.outward hbinds hdecides)
    rw [bindsInside_iff] at houter
    rw [scopeInside_cons, scopeInside_cons]
    generalize openedFrame? s₁ n = o₁ at hopened houter ⊢
    generalize openedFrame? s₂ n' = o₂ at hopened ⊢
    cases hopened with
    | none => exact ih (houter (by simp))
    | @some f g hfg =>
      simp only [Option.toList_some, List.cons_append, List.nil_append, Scope.lookup]
      rw [← hfg]
      cases hf : f.get? x with
      | none => exact ih (houter (by simp [hf]))
      | some bound => rfl

end Lookup

section Places

/-- The two places hold related nodes and stand in related nodes. -/
structure TrimmedPlace (s₁ s₂ : Source) (d : Node) (p q : Place) : Prop where
  node : Trimmed s₁ s₂ d p.node q.node
  around : List.Forall₂ (Trimmed s₁ s₂ d) p.around q.around

theorem placesOfNamed_append (up left right : List Node) :
    placesOfNamed up (left ++ right) = placesOfNamed up left ++ placesOfNamed up right := by
  simp [placesOfNamed_eq]

theorem placesOf_eq_cons (up : List Node) (n : Node) :
    placesOf up n = ⟨n, up⟩ :: placesOfNamed (n :: up) n.children := by
  rw [placesOf_eq, placesOfNamed_eq]
  rfl

theorem trimmedPlaces_of_alike {up₁ up₂ ns ms : List Node} (h : List.Forall₂ (Alike s₁ s₂) ns ms)
    (hup : List.Forall₂ (Trimmed s₁ s₂ d) up₁ up₂) :
    List.Forall₂ (TrimmedPlace s₁ s₂ d) (placesOfNamed up₁ ns) (placesOfNamed up₂ ms) :=
  (Alike.forall₂_placesOfNamed (U := List.Forall₂ (Trimmed s₁ s₂ d)) (fun hab _ _ => .cons (.inl hab)) h hup).imp
    fun _ _ hpq => ⟨.inl hpq.1, hpq.2⟩

/-- Apart from the places in the dropped statement, the places of the two trees correspond. -/
theorem Dropped.places (h : Dropped s₁ s₂ d a b) {up₁ up₂ : List Node}
    (hup : List.Forall₂ (Trimmed s₁ s₂ d) up₁ up₂) :
    ∃ before inside after, placesOf up₁ a = before ++ inside ++ after ∧ (∀ p ∈ inside, d ∈ p.node :: p.around) ∧
      List.Forall₂ (TrimmedPlace s₁ s₂ d) (before ++ after) (placesOf up₂ b) := by
  induction h generalizing up₁ up₂ with
  | @here a b left₁ left₂ right₁ right₂ hhead hkind ha hb hleft hright =>
    have hab : Trimmed s₁ s₂ d a b := .inr (.here hhead hkind ha hb hleft hright)
    refine ⟨⟨a, up₁⟩ :: placesOfNamed (a :: up₁) left₁, placesOfNamed (a :: up₁) [d], placesOfNamed (a :: up₁) right₁,
      ?_, ?_, ?_⟩
    · rw [placesOf_eq_cons, ha, List.append_cons, placesOfNamed_append, placesOfNamed_append]
      rfl
    · intro p hp
      rw [placesOfNamed_eq] at hp
      obtain ⟨c, hc, hp⟩ := List.mem_flatMap.mp hp
      cases List.mem_singleton.mp (List.mem_of_mem_filter hc)
      exact (suffix_of_mem_placesOf hp).subset List.mem_cons_self
    · rw [placesOf_eq_cons, hb, placesOfNamed_append]
      have hinner := List.Forall₂.cons hab hup
      exact .cons ⟨hab, hup⟩ (List.rel_append (trimmedPlaces_of_alike hleft hinner) (trimmedPlaces_of_alike hright hinner))
  | @child a b c e left₁ left₂ right₁ right₂ hhead htext ha hb hleft hright hname hce ih =>
    have hab : Trimmed s₁ s₂ d a b := .inr (.child hhead htext ha hb hleft hright hname hce)
    have hinner := List.Forall₂.cons hab hup
    obtain ⟨before, inside, after, hplaces, hinside, hothers⟩ : ∃ before inside after,
        placesOfNamed (a :: up₁) [c] = before ++ inside ++ after ∧ (∀ p ∈ inside, d ∈ p.node :: p.around) ∧
          List.Forall₂ (TrimmedPlace s₁ s₂ d) (before ++ after) (placesOfNamed (b :: up₂) [e]) := by
      have hnamed : e.named = c.named := (Trimmed.head (.inr hce)).named
      by_cases hc : c.named = true
      · simpa [placesOfNamed_eq, hc, hnamed] using ih hinner
      · exact ⟨[], [], [], by simp [placesOfNamed_eq, hc], by simp, by simp [placesOfNamed_eq, hc, hnamed]⟩
    refine ⟨⟨a, up₁⟩ :: placesOfNamed (a :: up₁) left₁ ++ before, inside, after ++ placesOfNamed (a :: up₁) right₁,
      ?_, hinside, ?_⟩
    · rw [placesOf_eq_cons, ha, List.append_cons, placesOfNamed_append, placesOfNamed_append, hplaces]
      simp
    · rw [placesOf_eq_cons, hb, List.append_cons, placesOfNamed_append, placesOfNamed_append]
      have hsides := List.rel_append (List.rel_append (trimmedPlaces_of_alike hleft hinner) hothers)
        (trimmedPlaces_of_alike hright hinner)
      simpa using List.Forall₂.cons ⟨hab, hup⟩ hsides

end Places

/-- The two calls, the first of which stands inside the given nodes, have the same callee. A name that the declaration
`d` declares is bound to a declaration of the module itself for the first call, if `d` decides that, and else it is
bound alike for both calls. -/
structure BoundAlike (src : Source) (root d : Node) (around : List Node) (c₁ c₂ : CallSite) : Prop where
  callee : c₁.callee = c₂.callee
  bound : ∃ scope₁ scope₂, c₁.scope = some scope₁ ∧ c₂.scope = some scope₂ ∧ ∀ x ∈ declaredNames src d,
    (Decides src root d x around → scope₁.lookup x = some .declared) ∧
      (¬Decides src root d x around → scope₁.lookup x = scope₂.lookup x)

/-- Two sound trees, the second of which is the first without a declaration of variables that is a statement of a block.
Apart from the places in the declaration their places correspond, with the same calls, which find the declared names as
the declaration decides. -/
theorem block_declaration_decides {text₁ text₂ : String} {root₁ root₂ : Node} (path : String)
    (hdropped : Dropped (.ofString text₁) (.ofString text₂) d root₁ root₂) (hkind : d.kind = "lexical_declaration")
    (hsound₁ : root₁.hasFault = false) (hsound₂ : root₂.hasFault = false) :
    let s₁ := Source.ofString text₁
    let s₂ := Source.ofString text₂
    ∃ m₁ m₂, Module.ofTree path text₁ root₁ = .ok m₁ ∧ Module.ofTree path text₂ root₂ = .ok m₂ ∧
      m₁.calls = (placesOf [] root₁).filterMap (·.call? s₁ m₁.frame) ∧
      m₂.calls = (placesOf [] root₂).filterMap (·.call? s₂ m₂.frame) ∧
      ∃ before inside after, placesOf [] root₁ = before ++ inside ++ after ∧ (∀ p ∈ inside, d ∈ p.node :: p.around) ∧
        List.Forall₂ (fun p q => Option.Rel (BoundAlike s₁ root₁ d p.around) (p.call? s₁ m₁.frame) (q.call? s₂ m₂.frame))
          (before ++ after) (placesOf [] root₂) := by
  intro s₁ s₂
  obtain ⟨before, inside, after, hplaces, hinside, hothers⟩ := hdropped.places .nil
  refine ⟨_, _, ofTree_eq_ok hsound₁ path text₁, ofTree_eq_ok hsound₂ path text₂, calls_extract path text₁ root₁,
    calls_extract path text₂ root₂, before, inside, after, hplaces, hinside, hothers.imp fun p q hpq => ?_⟩
  refine optionRel_imp ((Trimmed.mirrors s₁ s₂ d).call? hpq.node _ _) fun c₁ c₂ hcalls => ?_
  obtain ⟨hcallee, hscope₁, hscope₂⟩ := hcalls
  refine ⟨hcallee, _, _, hscope₁, hscope₂, fun x hx => ?_⟩
  have hd : DeclaresHere s₁ d x := .declaration (mem_declaredNames_iff.mp hx)
  constructor
  · exact lookup_of_decides hd fun hlooks => get?_frame_extract_of_looksAt hlooks hd
  · exact lookup_of_not_decides hpq.around hd (Trimmed.get?_frame_extract path (.inr hdropped) hd (hkind ▸ by decide))

section Trees

/-- The declaration in `import { f } from "./b"; { const f = 1; } f();`. -/
def blockConst : Node :=
  .branch "lexical_declaration" 27 39 [(Node.token "const" 27 32).inField "kind",
    .branch "variable_declarator" 33 38 [(Node.leaf "identifier" 33 34).inField "name", .token "=" 35 36,
      (Node.leaf "number" 37 38).inField "value"], .token ";" 38 39]

/-- The tree of that text, with the given statements in the block, which ends at the byte `o`. -/
def importTree (statements : List Node) (o : Nat) : Node :=
  .branch "program" 0 (o + 6) [
    .branch "import_statement" 0 24 [.token "import" 0 6,
      .branch "import_clause" 7 12 [.branch "named_imports" 7 12 [.token "\x7b" 7 8,
        .branch "import_specifier" 9 10 [(Node.leaf "identifier" 9 10).inField "name"], .token "\x7d" 11 12]],
      .token "from" 13 17,
      (Node.branch "string" 18 23 [.token "\"" 18 19, .leaf "string_fragment" 19 22, .token "\"" 22 23]).inField "source",
      .token ";" 23 24],
    .branch "statement_block" 25 (o + 1) ([.token "\x7b" 25 26] ++ statements ++ [.token "\x7d" o (o + 1)]),
    .branch "expression_statement" (o + 2) (o + 6) [
      .branch "call_expression" (o + 2) (o + 5) [(Node.leaf "identifier" (o + 2) (o + 3)).inField "function",
        (Node.branch "arguments" (o + 3) (o + 5) [.token "(" (o + 3) (o + 4), .token ")" (o + 4) (o + 5)]).inField
          "arguments"],
      .token ";" (o + 5) (o + 6)]]

def constText : String := "import \x7b f \x7d from \"./b\"; \x7b const f = 1; \x7d f();"

def emptyText : String := "import \x7b f \x7d from \"./b\"; \x7b \x7d f();"

theorem dropped_blockConst :
    Dropped (.ofString constText) (.ofString emptyText) blockConst (importTree [blockConst] 40) (importTree [] 27) := by
  refine .child ⟨rfl, rfl, rfl⟩ (fun hkind => absurd hkind (by decide)) (show _ = [_] ++ _ :: [_] from rfl)
    (show _ = [_] ++ _ :: [_] from rfl) (.cons (by decide +kernel) .nil) (.cons (by decide +kernel) .nil)
    (fun hpart => absurd hpart (by decide)) ?_
  exact .here ⟨rfl, rfl, rfl⟩ rfl (show _ = [_] ++ _ :: [_] from rfl) (show _ = [_] ++ [_] from rfl)
    (.cons (by decide +kernel) .nil) (.cons (by decide +kernel) .nil)

theorem block_declaration_decides_importTree :
    let root₁ := importTree [blockConst] 40
    let root₂ := importTree [] 27
    Dropped (.ofString constText) (.ofString emptyText) blockConst root₁ root₂ ∧
      blockConst.kind = "lexical_declaration" ∧ root₁.hasFault = false ∧ root₂.hasFault = false ∧
      ∃ m₁ m₂ c₂, Module.ofTree "a.ts" constText root₁ = .ok m₁ ∧ Module.ofTree "a.ts" emptyText root₂ = .ok m₂ ∧
        m₂.calls = [c₂] ∧ ∃ p ∈ placesOf [] root₁, ∃ c₁, p.call? (.ofString constText) m₁.frame = some c₁ ∧
          BoundAlike (.ofString constText) root₁ blockConst p.around c₁ c₂ := by
  intro root₁ root₂
  have hsound₁ : root₁.hasFault = false := by decide
  have hsound₂ : root₂.hasFault = false := by decide
  obtain ⟨m₁, m₂, h₁, h₂, -, hcalls₂, before, inside, after, hplaces, -, hothers⟩ :=
    block_declaration_decides "a.ts" dropped_blockConst rfl hsound₁ hsound₂
  have hcalls := forall₂_call? (.ofString emptyText) m₂.frame (placesOf [] root₂)
  have hone : ((placesOf [] root₂).filter (isCall ·.node)).length = 1 := by decide
  obtain ⟨q, hq⟩ := List.length_eq_one_iff.mp hone
  rw [← hcalls₂, hq] at hcalls
  obtain ⟨c₂, rest, ⟨hmem, hcall⟩, hnil, hsingle⟩ := List.forall₂_cons_left_iff.mp hcalls
  cases hnil
  obtain ⟨p, hp, hbound⟩ := exists_mem_of_forall₂ (List.Forall₂.flip (R := flip _) hothers) hmem
  have hp₁ : p ∈ placesOf [] root₁ := by
    rw [hplaces]
    rcases List.mem_append.mp hp with hp | hp
    · exact List.mem_append_left _ (List.mem_append_left _ hp)
    · exact List.mem_append_right _ hp
  change Option.Rel _ (p.call? _ _) (q.call? _ _) at hbound
  rw [hcall] at hbound
  generalize hc₁ : p.call? (.ofString constText) m₁.frame = found at hbound
  cases hbound with
  | some hbound => exact ⟨dropped_blockConst, rfl, hsound₁, hsound₂, m₁, m₂, c₂, h₁, h₂, hsingle, p, hp₁, _, hc₁, hbound⟩

/-- A declaration takes the place of an import for a call that stands outside its block: with the declaration the name
is bound to the module itself, and without it to what is imported. -/
theorem block_declaration_hides_import :
    let root₁ := importTree [blockConst] 40
    let root₂ := importTree [] 27
    Dropped (.ofString constText) (.ofString emptyText) blockConst root₁ root₂ ∧
      blockConst.kind = "lexical_declaration" ∧ "f" ∈ declaredNames (.ofString constText) blockConst ∧
      ∃ m₁ m₂ p q, Module.ofTree "a.ts" constText root₁ = .ok m₁ ∧ Module.ofTree "a.ts" emptyText root₂ = .ok m₂ ∧
        (placesOf [] root₁).filter (isCall ·.node) = [p] ∧ (placesOf [] root₂).filter (isCall ·.node) = [q] ∧
        (calleeAt (.ofString constText) p.node).root = some "f" ∧ (∀ n ∈ p.around, n.kind ≠ "statement_block") ∧
        (scopeInside (.ofString constText) m₁.frame p.around).lookup "f" = some .declared ∧
        (scopeInside (.ofString emptyText) m₂.frame q.around).lookup "f" = some (.imported "./b" "f") := by
  intro root₁ root₂
  have hsound₁ : root₁.hasFault = false := by decide
  have hsound₂ : root₂.hasFault = false := by decide
  exact ⟨dropped_blockConst, rfl, by decide +kernel, _, _, ⟨_, [_, _]⟩, ⟨_, [_, _]⟩, ofTree_eq_ok hsound₁ "a.ts" constText,
    ofTree_eq_ok hsound₂ "a.ts" emptyText, rfl, rfl, by decide +kernel, by decide, by decide +kernel, by decide +kernel⟩

end Trees

end CorpusShape
