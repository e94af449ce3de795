import CorpusShape.Proofs.SameOutside

/-!
# Functions keep their names to themselves

Two trees that differ only inside one function bind the same names in their modules and in every scope around and
beside that function, so that a call outside it has the same callee and sees the same scope in both. Nothing that is
declared inside a function leaks: no parameter, no local name, no name of a function expression and no variable of a
catch clause.
-/
namespace CorpusShape

open Syntax

variable {s₁ s₂ : Source} {a b : Node}

/-- The two trees, inside the given nodes, differ only in where their nodes stand and inside the functions at the two
places. On the way to the functions no name and no import is entered. A function that is a declaration keeps its name;
all else of the two functions is free. -/
inductive VariedAt (s₁ s₂ : Source) : List Node → List Node → Node → Node → Place → Place → Prop
  | here {up₁ up₂ : List Node} {a b : Node} : SameHead a b → a.kind ∈ functionKinds →
      (a.kind ∈ namedDeclarationKinds → (a.child? "name").map s₁.textOf = (b.child? "name").map s₂.textOf) →
      VariedAt s₁ s₂ up₁ up₂ a b ⟨a, up₁⟩ ⟨b, up₂⟩
  | child {up₁ up₂ left₁ left₂ right₁ right₂ : List Node} {a b c d : Node} {p q : Place} : SameHead a b →
      a.kind ∉ nameKinds → a.children = left₁ ++ c :: right₁ → b.children = left₂ ++ d :: right₂ →
      List.Forall₂ (Alike s₁ s₂) left₁ left₂ → List.Forall₂ (Alike s₁ s₂) right₁ right₂ →
      c.named = true → isPlainPart a c = false →
      VariedAt s₁ s₂ (a :: up₁) (b :: up₂) c d p q → VariedAt s₁ s₂ up₁ up₂ a b p q

/-- What stands inside the two nodes is the same outside functions, so that they open the same frames. -/
structure SameInside (s₁ s₂ : Source) (a b : Node) : Prop where
  head : SameHead a b
  children : List.Forall₂ (SameOutside s₁ s₂) a.children b.children
  plain : List.Forall₂ (fun c d => isPlainPart a c = true → Alike s₁ s₂ c d) a.children b.children

theorem Alike.sameInside (h : Alike s₁ s₂ a b) : SameInside s₁ s₂ a b :=
  ⟨h.head, h.children.imp fun _ _ => Alike.sameOutside, forall₂_imp_of_mem h.children fun _ _ _ hcd _ => hcd⟩

/-- A node with one child that is related and others that are alike. -/
theorem SameInside.of_children {left₁ left₂ right₁ right₂ : List Node} {c d : Node} (hhead : SameHead a b)
    (hc : a.children = left₁ ++ c :: right₁) (hd : b.children = left₂ ++ d :: right₂)
    (hleft : List.Forall₂ (Alike s₁ s₂) left₁ left₂) (hright : List.Forall₂ (Alike s₁ s₂) right₁ right₂)
    (hplain : isPlainPart a c = false) (hcd : SameOutside s₁ s₂ c d) : SameInside s₁ s₂ a b := by
  refine ⟨hhead, ?_, ?_⟩
  · rw [hc, hd]
    exact List.rel_append (hleft.imp fun _ _ => Alike.sameOutside) (.cons hcd (hright.imp fun _ _ => Alike.sameOutside))
  · have halike : ∀ {ns ms : List Node}, List.Forall₂ (Alike s₁ s₂) ns ms →
        List.Forall₂ (fun x y => isPlainPart a x = true → Alike s₁ s₂ x y) ns ms := fun h =>
      forall₂_imp_of_mem h fun _ _ _ hxy _ => hxy
    rw [hc, hd]
    refine List.rel_append (halike hleft) (.cons (fun hentered => ?_) (halike hright))
    rw [hplain] at hentered
    contradiction

theorem VariedAt.sameOutside {up₁ up₂ : List Node} {p q : Place} (h : VariedAt s₁ s₂ up₁ up₂ a b p q) :
    SameOutside s₁ s₂ a b := by
  induction h with
  | here hhead hkind hname => exact .function hhead hkind hname
  | child hhead hkind hc hd hleft hright _ hplain _ ih =>
    have hinside := SameInside.of_children hhead hc hd hleft hright hplain ih
    exact .other hhead (fun hname => absurd hname hkind) hinside.children hinside.plain

section Frames

theorem SameInside.rel_child? (h : SameInside s₁ s₂ a b) (name : String) :
    Option.Rel (SameOutside s₁ s₂) (a.child? name) (b.child? name) :=
  optionRel_imp (CorpusShape.rel_child? (fun _ _ => SameOutside.head) h.children name) fun _ _ hcd => hcd.1

theorem SameInside.ownNames (h : SameInside s₁ s₂ a b) : ownNames s₁ a = ownNames s₂ b := by
  unfold CorpusShape.ownNames
  rw [h.head.kind]
  split
  · rename_i hkind
    have hname : Option.Rel (Alike s₁ s₂) (a.child? "name") (b.child? "name") := by
      refine optionRel_imp (CorpusShape.rel_child? (fun _ _ hcd => hcd.1.head) (forall₂_and h.children h.plain) "name")
        fun c d hcd => hcd.1.2 ?_
      simp [isPlainPart, nameHolderKinds, hcd.2, List.contains_iff_mem.mp hkind]
    generalize a.child? "name" = x at hname ⊢
    generalize b.child? "name" = y at hname ⊢
    cases hname with
    | none => rfl
    | some hxy => exact congrArg (fun text => [text]) hxy.text
  · rfl

theorem SameInside.signatureFrame (h : SameInside s₁ s₂ a b) : signatureFrame s₁ a = signatureFrame s₂ b := by
  unfold CorpusShape.signatureFrame
  rw [h.ownNames, SameOutside.patternNames? (optionRel_orElse (h.rel_child? "parameters") (h.rel_child? "parameter"))]

theorem SameInside.functionFrame (h : SameInside s₁ s₂ a b) : functionFrame s₁ a = functionFrame s₂ b := by
  have hbody := h.rel_child? "body"
  rw [functionFrame_eq, functionFrame_eq s₂, h.signatureFrame]
  generalize a.child? "body" = x at hbody ⊢
  generalize b.child? "body" = y at hbody ⊢
  cases hbody with
  | none => rfl
  | some hbody =>
    dsimp only
    rw [hbody.head.kind]
    split
    · rename_i hblock
      refine SameOutside.hoist _ (hbody.forall₂_namedChildren ?_)
      rw [beq_iff_eq.mp hblock]
      decide
    · rfl

theorem SameInside.openedFrame? (h : SameInside s₁ s₂ a b) : openedFrame? s₁ a = openedFrame? s₂ b := by
  unfold CorpusShape.openedFrame? catchFrame
  rw [h.head.kind, h.functionFrame, SameOutside.patternNames? (h.rel_child? "parameter")]

theorem scopeInside_cons (src : Source) (frame : Frame) (n : Node) (around : List Node) :
    scopeInside src frame (n :: around) = (openedFrame? src n).toList ++ scopeInside src frame around := by
  cases h : openedFrame? src n with
  | none => exact scopeInside_of_none h frame around
  | some f => exact scopeInside_of_some h frame around

theorem SameInside.scopeInside (h : SameInside s₁ s₂ a b) {frame : Frame} {up₁ up₂ : List Node}
    (hscope : scopeInside s₁ frame up₁ = scopeInside s₂ frame up₂) :
    scopeInside s₁ frame (a :: up₁) = scopeInside s₂ frame (b :: up₂) := by
  rw [scopeInside_cons, scopeInside_cons, h.openedFrame?, hscope]

/-- The statements bind the names of imports in the frame of the module. -/
def Frame.bindStatement (src : Source) (f : Frame) (n : Node) : Frame :=
  if n.kind == "import_statement" then (importOf? src n).elim f f.bindImport else f

theorem Module.frame_addExport (src : Source) (m : Module) (n : Node) : (m.addExport src n).frame = m.frame := by
  unfold Module.addExport
  repeat' split
  all_goals rfl

theorem Module.frame_addStatement (src : Source) (m : Module) (n : Node) :
    (m.addStatement src n).frame = m.frame.bindStatement src n := by
  unfold Module.addStatement Frame.bindStatement
  split
  · cases importOf? src n with
    | none => rfl
    | some i => rfl
  split
  · exact frame_addExport src m n
  · rfl

theorem Module.frame_addTop (src : Source) (exportedLocals : List String) (m : Module) (n : Node) :
    (m.addTop src exportedLocals n).frame = m.frame := by
  unfold Module.addTop
  dsimp only
  repeat' split
  all_goals rfl

/-- The frame of a module holds what its statements import and what is hoisted from its tree. -/
theorem frame_extract (path text : String) (root : Node) :
    (extract path text root).frame =
      hoist (.ofString text) root (root.namedChildren.foldl (Frame.bindStatement (.ofString text)) []) := by
  have hstatements : ∀ (ns : List Node) (m : Module), (ns.foldl (Module.addStatement (.ofString text)) m).frame =
      ns.foldl (Frame.bindStatement (.ofString text)) m.frame := by
    intro ns
    induction ns with
    | nil => exact fun _ => rfl
    | cons n ns ih => exact fun m => (ih _).trans (by rw [Module.frame_addStatement]; rfl)
  have htops : ∀ (locals : List String) (ns : List Node) (m : Module),
      (ns.foldl (Module.addTop (.ofString text) locals) m).frame = m.frame := by
    intro locals ns
    induction ns with
    | nil => exact fun _ => rfl
    | cons n ns ih => exact fun m => (ih _).trans (Module.frame_addTop _ _ _ _)
  exact (htops _ _ _).trans (congrArg (hoist (.ofString text) root) (hstatements _ _))

theorem SameOutside.bindStatement (h : SameOutside s₁ s₂ a b) (f : Frame) :
    f.bindStatement s₁ a = f.bindStatement s₂ b := by
  unfold Frame.bindStatement
  rw [h.head.kind]
  split
  · rename_i hkind
    exact optionRel_elim (P := Eq) (h.importOf? (beq_iff_eq.mp hkind)) rfl fun i _ j hij => hij.bindImport f
  · rfl

/-- Related trees have the same frame of the module. -/
theorem SameOutside.frame_extract {text₁ text₂ : String} (path : String)
    (h : SameOutside (.ofString text₁) (.ofString text₂) a b) (hkind : a.kind ∉ functionKinds) :
    (extract path text₁ a).frame = (extract path text₂ b).frame := by
  have hchildren := h.forall₂_namedChildren hkind
  have hbound : a.namedChildren.foldl (Frame.bindStatement (.ofString text₁)) [] =
      b.namedChildren.foldl (Frame.bindStatement (.ofString text₂)) [] := by
    refine List.rel_foldl (P := Eq) ?_ rfl hchildren
    rintro f _ rfl c d hcd
    exact hcd.bindStatement f
  rw [CorpusShape.frame_extract, CorpusShape.frame_extract, hbound]
  exact SameOutside.hoist _ hchildren

end Frames

section Calls

/-- The two places hold related nodes and see the same scope. -/
structure SamePlace (s₁ s₂ : Source) (frame : Frame) (p q : Place) : Prop where
  node : SameOutside s₁ s₂ p.node q.node
  scope : scopeInside s₁ frame p.around = scopeInside s₂ frame q.around

/-- The two calls have the same callee and see the same scope, so that every name is bound alike for them. -/
structure SameCall (x y : CallSite) : Prop where
  kind : x.kind = y.kind
  root : x.root = y.root
  members : x.members = y.members
  scope : x.scope = y.scope

theorem SamePlace.call? {frame : Frame} {p q : Place} (h : SamePlace s₁ s₂ frame p q) :
    Option.Rel SameCall (p.call? s₁ frame) (q.call? s₂ frame) := by
  refine optionRel_imp ((SameOutside.mirrors s₁ s₂).call? h.node frame frame) fun x y hxy => ?_
  obtain ⟨hcallee, hx, hy⟩ := hxy
  refine ⟨congrArg Callee.kind hcallee, congrArg Callee.root hcallee, congrArg Callee.members hcallee, ?_⟩
  rw [hx, hy, h.scope]

/-- Trees that are alike have places with nodes that are alike, and what relates the nodes around the trees relates those
around the places. -/
theorem Alike.forall₂_placesOf {U : List Node → List Node → Prop}
    (hU : ∀ {a b : Node}, Alike s₁ s₂ a b → ∀ {up₁ up₂ : List Node}, U up₁ up₂ → U (a :: up₁) (b :: up₂))
    {up₁ up₂ : List Node} (h : Alike s₁ s₂ a b) (hup : U up₁ up₂) :
    List.Forall₂ (fun p q => Alike s₁ s₂ p.node q.node ∧ U p.around q.around) (placesOf up₁ a) (placesOf up₂ b) := by
  induction a using Node.inductionOn generalizing b up₁ up₂ with
  | h a ih =>
    have hchildren := forall₂_imp_of_mem h.forall₂_namedChildren fun c hc d hcd =>
      ih c (List.mem_of_mem_filter hc) hcd (hU h hup)
    rw [placesOf_eq, placesOf_eq up₂]
    exact .cons ⟨h, hup⟩ (List.rel_flatMap hchildren fun _ _ hplaces => hplaces)

theorem Alike.forall₂_placesOfNamed {U : List Node → List Node → Prop}
    (hU : ∀ {a b : Node}, Alike s₁ s₂ a b → ∀ {up₁ up₂ : List Node}, U up₁ up₂ → U (a :: up₁) (b :: up₂))
    {up₁ up₂ ns ms : List Node} (h : List.Forall₂ (Alike s₁ s₂) ns ms) (hup : U up₁ up₂) :
    List.Forall₂ (fun p q => Alike s₁ s₂ p.node q.node ∧ U p.around q.around) (placesOfNamed up₁ ns)
      (placesOfNamed up₂ ms) := by
  rw [placesOfNamed_eq, placesOfNamed_eq]
  exact List.rel_flatMap (forall₂_filter (fun _ _ hxy => hxy.head.named) h) fun _ _ hxy => hxy.forall₂_placesOf hU hup

/-- Trees that are alike, inside nodes that open the same scope, have the same places. -/
theorem Alike.places {frame : Frame} {up₁ up₂ ns ms : List Node} (h : List.Forall₂ (Alike s₁ s₂) ns ms)
    (hscope : scopeInside s₁ frame up₁ = scopeInside s₂ frame up₂) :
    List.Forall₂ (SamePlace s₁ s₂ frame) (placesOfNamed up₁ ns) (placesOfNamed up₂ ms) :=
  (Alike.forall₂_placesOfNamed (U := fun up₁ up₂ => scopeInside s₁ frame up₁ = scopeInside s₂ frame up₂)
    (fun hab _ _ => hab.sameInside.scopeInside) h hscope).imp fun _ _ hpq => ⟨hpq.1.sameOutside, hpq.2⟩

theorem placesOf_of_children {up left right : List Node} {n c : Node} (h : n.children = left ++ c :: right)
    (hnamed : c.named = true) :
    placesOf up n = ⟨n, up⟩ :: placesOfNamed (n :: up) left ++ placesOf (n :: up) c ++ placesOfNamed (n :: up) right := by
  rw [placesOf_eq, placesOfNamed_eq, placesOfNamed_eq, Node.namedChildren, h]
  simp [hnamed]

/-- Apart from the places inside the functions, the places of the two trees correspond. -/
theorem VariedAt.places {up₁ up₂ : List Node} {p q : Place} (h : VariedAt s₁ s₂ up₁ up₂ a b p q) (frame : Frame)
    (hscope : scopeInside s₁ frame up₁ = scopeInside s₂ frame up₂) :
    scopeInside s₁ frame p.around = scopeInside s₂ frame q.around ∧
      ∃ before₁ after₁ before₂ after₂, placesOf up₁ a = before₁ ++ placesOf p.around p.node ++ after₁ ∧
        placesOf up₂ b = before₂ ++ placesOf q.around q.node ++ after₂ ∧
        List.Forall₂ (SamePlace s₁ s₂ frame) before₁ before₂ ∧ List.Forall₂ (SamePlace s₁ s₂ frame) after₁ after₂ := by
  induction h with
  | here => exact ⟨hscope, [], [], [], [], by simp, by simp, .nil, .nil⟩
  | @child up₁ up₂ left₁ left₂ right₁ right₂ a b c d p q hhead hkind hc hd hleft hright hnamed hplain hvaried ih =>
    have hinside := SameInside.of_children hhead hc hd hleft hright hplain hvaried.sameOutside
    have hinner := hinside.scopeInside hscope
    obtain ⟨hp, before₁, after₁, before₂, after₂, h₁, h₂, hbefore, hafter⟩ := ih hinner
    refine ⟨hp, ⟨a, up₁⟩ :: placesOfNamed (a :: up₁) left₁ ++ before₁, after₁ ++ placesOfNamed (a :: up₁) right₁,
      ⟨b, up₂⟩ :: placesOfNamed (b :: up₂) left₂ ++ before₂, after₂ ++ placesOfNamed (b :: up₂) right₂, ?_, ?_, ?_, ?_⟩
    · rw [placesOf_of_children hc hnamed, h₁]
      simp
    · rw [placesOf_of_children hd (hvaried.sameOutside.head.named.trans hnamed), h₂]
      simp
    · exact .cons ⟨(VariedAt.child hhead hkind hc hd hleft hright hnamed hplain hvaried).sameOutside, hscope⟩
        (List.rel_append (Alike.places hleft hinner) hbefore)
    · exact List.rel_append hafter (Alike.places hright hinner)

def callsInside (src : Source) (frame : Frame) (p : Place) : List CallSite :=
  (placesOf p.around p.node).filterMap (·.call? src frame)

/-- Two sound trees that differ only inside one function give modules with the same bindings. The scope in which the
function stands is the same, and apart from the calls inside it the calls correspond, before the function and after it,
with the same callee and the same scope. -/
theorem calls_outside_function {text₁ text₂ : String} {root₁ root₂ : Node} {p q : Place} (path : String)
    (hvaried : VariedAt (.ofString text₁) (.ofString text₂) [] [] root₁ root₂ p q) (hroot : root₁.kind ∉ functionKinds)
    (hsound₁ : root₁.hasFault = false) (hsound₂ : root₂.hasFault = false) :
    ∃ m₁ m₂, Module.ofTree path text₁ root₁ = .ok m₁ ∧ Module.ofTree path text₂ root₂ = .ok m₂ ∧ m₁.frame = m₂.frame ∧
      scopeInside (.ofString text₁) m₁.frame p.around = scopeInside (.ofString text₂) m₂.frame q.around ∧
      ∃ before₁ after₁ before₂ after₂, m₁.calls = before₁ ++ callsInside (.ofString text₁) m₁.frame p ++ after₁ ∧
        m₂.calls = before₂ ++ callsInside (.ofString text₂) m₂.frame q ++ after₂ ∧
        List.Forall₂ SameCall before₁ before₂ ∧ List.Forall₂ SameCall after₁ after₂ := by
  have hframe := hvaried.sameOutside.frame_extract path hroot
  obtain ⟨hscope, before₁, after₁, before₂, after₂, h₁, h₂, hbefore, hafter⟩ :=
    hvaried.places (extract path text₁ root₁).frame rfl
  have hcalls : ∀ {ps qs : List Place},
      List.Forall₂ (SamePlace (.ofString text₁) (.ofString text₂) (extract path text₁ root₁).frame) ps qs →
      List.Forall₂ SameCall (ps.filterMap (·.call? (.ofString text₁) (extract path text₁ root₁).frame))
        (qs.filterMap (·.call? (.ofString text₂) (extract path text₁ root₁).frame)) := fun hps =>
    List.rel_filterMap (fun _ _ hpq => hpq.call?) hps
  refine ⟨_, _, ofTree_eq_ok hsound₁ path text₁, ofTree_eq_ok hsound₂ path text₂, hframe, hframe ▸ hscope, _, _, _, _, ?_, ?_, hcalls hbefore, hcalls hafter⟩
  · rw [calls_extract, h₁, List.filterMap_append, List.filterMap_append]
    rfl
  · rw [calls_extract, h₂, List.filterMap_append, List.filterMap_append, hframe]
    rfl

/-- The tree of `f(x => x())`. -/
def callWithin : Node :=
  .branch "program" 0 11 [.branch "expression_statement" 0 11 [.branch "call_expression" 0 11
    [(Node.leaf "identifier" 0 1).inField "function",
      (Node.branch "arguments" 1 11 [.token "(" 1 2,
        .branch "arrow_function" 2 10 [(Node.leaf "identifier" 2 3).inField "parameter", .token "=>" 4 6,
          (Node.branch "call_expression" 7 10 [(Node.leaf "identifier" 7 8).inField "function",
            (Node.branch "arguments" 8 10 [.token "(" 8 9, .token ")" 9 10]).inField "arguments"]).inField "body"],
        .token ")" 10 11]).inField "arguments"]]]

/-- The tree of `f((f, g) => g)`, which differs from that of `f(x => x())` in the function only. -/
def callAround : Node :=
  .branch "program" 0 14 [.branch "expression_statement" 0 14 [.branch "call_expression" 0 14
    [(Node.leaf "identifier" 0 1).inField "function",
      (Node.branch "arguments" 1 14 [.token "(" 1 2,
        .branch "arrow_function" 2 13 [(Node.branch "formal_parameters" 2 8 [.token "(" 2 3, .leaf "identifier" 3 4,
            .token "," 4 5, .leaf "identifier" 6 7, .token ")" 7 8]).inField "parameters", .token "=>" 9 11,
          (Node.leaf "identifier" 12 13).inField "body"],
        .token ")" 13 14]).inField "arguments"]]]

theorem calls_outside_function_callAround :
    ∃ p q, VariedAt (.ofString "f(x => x())") (.ofString "f((f, g) => g)") [] [] callWithin callAround p q ∧
      ∃ m₁ m₂, Module.ofTree "a.ts" "f(x => x())" callWithin = .ok m₁ ∧
        Module.ofTree "a.ts" "f((f, g) => g)" callAround = .ok m₂ ∧ m₁.frame = m₂.frame ∧
        scopeInside (.ofString "f(x => x())") m₁.frame p.around =
          scopeInside (.ofString "f((f, g) => g)") m₂.frame q.around := by
  have hfunction : ∃ p q,
      VariedAt (.ofString "f(x => x())") (.ofString "f((f, g) => g)") [] [] callWithin callAround p q :=
    ⟨_, _, .child ⟨rfl, rfl, rfl⟩ (by decide) (show _ = [] ++ _ :: [] from rfl) (show _ = [] ++ _ :: [] from rfl)
      .nil .nil rfl (by decide)
    (.child ⟨rfl, rfl, rfl⟩ (by decide) (show _ = [] ++ _ :: [] from rfl) (show _ = [] ++ _ :: [] from rfl)
      .nil .nil rfl (by decide)
    (.child ⟨rfl, rfl, rfl⟩ (by decide) (show _ = [_] ++ _ :: [] from rfl) (show _ = [_] ++ _ :: [] from rfl)
      (.cons (.intro ⟨rfl, rfl, rfl⟩ (by decide) .nil) .nil) .nil rfl (by decide)
    (.child ⟨rfl, rfl, rfl⟩ (by decide) (show _ = [_] ++ _ :: [_] from rfl) (show _ = [_] ++ _ :: [_] from rfl)
      (.cons (.intro ⟨rfl, rfl, rfl⟩ (by decide) .nil) .nil)
      (.cons (.intro ⟨rfl, rfl, rfl⟩ (by decide) .nil) .nil) rfl (by decide)
    (.here ⟨rfl, rfl, rfl⟩ (by decide) fun hkind => absurd hkind (by decide)))))⟩
  obtain ⟨p, q, hfunction⟩ := hfunction
  obtain ⟨m₁, m₂, h₁, h₂, hframe, hscope, -⟩ :=
    calls_outside_function "a.ts" hfunction (by decide) (by decide) (by decide)
  exact ⟨p, q, hfunction, m₁, m₂, h₁, h₂, hframe, hscope⟩

end Calls

end CorpusShape
