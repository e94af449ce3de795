import CorpusShape.Proofs.Encapsulation
import Mathlib.Data.List.Chain

/-!
# Names declared in the blocks around a call

Hoisting carries a declaration to the scope of the nearest function around it, if the declaration lies in the block that
is the body of that function, and to the scope of the module if no function is around it. On the way it passes through
blocks, loops, branches and catch clauses, but it never comes out of a class or a namespace. Wherever it gets, every
name that a block declares is found from every call inside the block. A namespace and the static block of a class
declare names of their own that no scope holds, and calls of these names find nothing.
-/
namespace CorpusShape

open Syntax

/-- The block from which a function hoists names to its own scope. -/
def functionBody? (n : Node) : Option Node :=
  if functionKinds.contains n.kind then (n.child? "body").filter (·.kind == "statement_block") else none

/-- Hoisting from below `top` looks at the node. -/
def LooksAt (top n : Node) : Prop := ∃ c ∈ top.namedChildren, Relation.ReflTransGen HoistLeads c n

theorem functionBody?_eq_some {n body : Node} :
    functionBody? n = some body ↔
      n.kind ∈ functionKinds ∧ n.child? "body" = some body ∧ body.kind = "statement_block" := by
  unfold functionBody?
  split
  · rename_i hkind
    simp [List.contains_iff_mem.mp hkind, Option.filter_eq_some_iff]
  · rename_i hkind
    simp [mt List.contains_iff_mem.mpr hkind]

theorem LooksAt.of_mem {top n : Node} (h : n ∈ top.namedChildren) : LooksAt top n := ⟨n, h, .refl⟩

theorem LooksAt.tail {top n c : Node} (h : LooksAt top n) (hlead : HoistLeads n c) : LooksAt top c := by
  obtain ⟨start, hstart, hreach⟩ := h
  exact ⟨start, hstart, hreach.tail hlead⟩

theorem hoisted_iff_looksAt {src : Source} {top : Node} {x : String} :
    Hoisted src top x ↔ ∃ d, LooksAt top d ∧ DeclaresHere src d x := by
  constructor
  · rintro ⟨c, hc, d, hreach, hd⟩
    exact ⟨d, ⟨c, hc, hreach⟩, hd⟩
  · rintro ⟨d, ⟨c, hc, hreach⟩, hd⟩
    exact ⟨c, hc, d, hreach, hd⟩

/-- A function binds what is declared where hoisting from its body looks. -/
theorem openedFrame?_of_looksAt {src : Source} {f body d : Node} {x : String} (hbody : functionBody? f = some body)
    (hlooks : LooksAt body d) (hd : DeclaresHere src d x) :
    ∃ frame, openedFrame? src f = some frame ∧ frame.get? x = some .declared := by
  obtain ⟨hkind, hchild, hblock⟩ := functionBody?_eq_some.mp hbody
  have hopens : opensScope f = true := by simp [opensScope, hkind]
  obtain ⟨frame, hframe, hbinds⟩ := openedFrame?_of_opensScope src hopens
  refine ⟨frame, hframe, (hbinds x).1 ?_⟩
  exact .hoisted hkind hchild hblock (hoisted_iff_looksAt.mpr ⟨d, hlooks, hd⟩)

/-- Hoisting looks at the innermost of the nodes, which stand in one another: it starts below the root and below the
bodies of functions, goes on to the children of nodes that are not closed, and below a declaration of variables to their
initial values. -/
inductive Reached : List Node → Prop
  | root {n root : Node} : Reached [n, root]
  | body {n body f : Node} {outer : List Node} : functionBody? f = some body → Reached (n :: body :: f :: outer)
  | child {n m : Node} {outer : List Node} : m.kind ∉ closedKinds → m.kind ∉ variableKinds → Reached (m :: outer) →
      Reached (n :: m :: outer)
  | value {v d m : Node} {outer : List Node} : m.kind ∈ variableKinds → d.child? "value" = some v →
      Reached (m :: outer) → Reached (v :: d :: m :: outer)

/-- The first node is a named child of the second. -/
abbrev StandsIn (c n : Node) : Prop := c ∈ n.namedChildren

theorem Reached.looksAt {d : Node} {around : List Node} (h : Reached (d :: around))
    (hchain : List.IsChain StandsIn (d :: around)) :
    (∃ root, [root] <:+ around ∧ LooksAt root d) ∨
      ∃ f ∈ around, ∃ body, functionBody? f = some body ∧ LooksAt body d := by
  generalize hnodes : d :: around = nodes at h
  induction h generalizing d around with
  | @root n root =>
    cases hnodes
    obtain ⟨hin, -⟩ := List.isChain_cons_cons.mp hchain
    exact .inl ⟨root, List.suffix_rfl, .of_mem hin⟩
  | @body n body f outer hbody =>
    cases hnodes
    obtain ⟨hin, -⟩ := List.isChain_cons_cons.mp hchain
    exact .inr ⟨f, by simp, body, hbody, .of_mem hin⟩
  | @child n m outer hclosed hvariable _ ih =>
    cases hnodes
    obtain ⟨hin, hrest⟩ := List.isChain_cons_cons.mp hchain
    have hlead : HoistLeads m n := .child hclosed hvariable hin
    rcases ih hrest rfl with ⟨root, hlast, hlooks⟩ | ⟨f, hf, body, hbody, hlooks⟩
    · exact .inl ⟨root, hlast.trans (List.suffix_cons _ _), hlooks.tail hlead⟩
    · exact .inr ⟨f, List.mem_cons_of_mem _ hf, body, hbody, hlooks.tail hlead⟩
  | @value v e m outer hvariable hvalue _ ih =>
    cases hnodes
    obtain ⟨-, hrest⟩ := List.isChain_cons_cons.mp hchain
    obtain ⟨hin, hrest⟩ := List.isChain_cons_cons.mp hrest
    have hlead : HoistLeads m v := .value hvariable hin hvalue
    rcases ih hrest rfl with ⟨root, hlast, hlooks⟩ | ⟨f, hf, body, hbody, hlooks⟩
    · exact .inl ⟨root, hlast.trans ((List.suffix_cons _ _).trans (List.suffix_cons _ _)), hlooks.tail hlead⟩
    · exact .inr ⟨f, List.mem_cons_of_mem _ (List.mem_cons_of_mem _ hf), body, hbody, hlooks.tail hlead⟩

/-- Around a place of a tree stand the tree itself and what is around it. -/
theorem suffix_of_mem_placesOf {n : Node} {up : List Node} {p : Place} (h : p ∈ placesOf up n) :
    n :: up <:+ p.node :: p.around := by
  induction n using Node.inductionOn generalizing up with
  | h n ih =>
    rw [placesOf_eq] at h
    rcases List.mem_cons.mp h with rfl | hinner
    · exact List.suffix_rfl
    · obtain ⟨c, hc, hp⟩ := List.mem_flatMap.mp hinner
      exact (List.suffix_cons c (n :: up)).trans (ih c (List.mem_of_mem_filter hc) hp)

/-- The nodes around a place stand in one another. -/
theorem chain_of_mem_placesOf {n : Node} {up : List Node} {p : Place} (h : p ∈ placesOf up n)
    (hup : List.IsChain StandsIn (n :: up)) : List.IsChain StandsIn (p.node :: p.around) := by
  induction n using Node.inductionOn generalizing up with
  | h n ih =>
    rw [placesOf_eq] at h
    rcases List.mem_cons.mp h with rfl | hinner
    · exact hup
    · obtain ⟨c, hc, hp⟩ := List.mem_flatMap.mp hinner
      exact ih c (List.mem_of_mem_filter hc) hp (List.isChain_cons_cons.mpr ⟨hc, hup⟩)

theorem Scope.lookup_isSome_of_mem {s : Scope} {f : Frame} {x : String} (hf : f ∈ s) (hx : (f.get? x).isSome) :
    (s.lookup x).isSome := by
  induction s with
  | nil => cases hf
  | cons g rest ih =>
    rw [Scope.lookup]
    rcases List.mem_cons.mp hf with rfl | hf
    · obtain ⟨b, hb⟩ := Option.isSome_iff_exists.mp hx
      simp [hb]
    · cases g.get? x with
      | none => exact ih hf
      | some b => rfl

/-- What is hoisted from the root is bound in the frame of the module. -/
theorem get?_frame_extract_of_looksAt {path text : String} {root d : Node} {x : String} (hlooks : LooksAt root d)
    (hd : DeclaresHere (.ofString text) d x) : (extract path text root).frame.get? x = some .declared := by
  rw [frame_extract]
  exact get?_hoist_of_hoisted _ (hoisted_iff_looksAt.mpr ⟨d, hlooks, hd⟩)

/-- The statement is a direct one of the block, and declares the name. -/
structure BlockDeclares (src : Source) (block statement : Node) (x : String) : Prop where
  isBlock : block.kind = "statement_block"
  direct : statement ∈ block.namedChildren
  name : Declares src statement x

/-- A name that a block around a place declares where hoisting looks is found from the place. -/
theorem lookup_of_blockDeclares {path text : String} {root block statement : Node} {p : Place} {inner outer : List Node}
    {x : String} (hp : p ∈ placesOf [] root) (haround : p.around = inner ++ block :: outer)
    (hdeclares : BlockDeclares (.ofString text) block statement x) (hreached : Reached (statement :: block :: outer)) :
    ((scopeInside (.ofString text) (extract path text root).frame p.around).lookup x).isSome := by
  have hd : DeclaresHere (.ofString text) statement x := .declaration hdeclares.name
  have hchain := chain_of_mem_placesOf hp (List.isChain_singleton root)
  have hsuffix := suffix_of_mem_placesOf hp
  have hblock : block :: outer <:+ p.node :: p.around := by
    rw [haround, ← List.cons_append]
    exact List.suffix_append _ _
  have hwithin : List.IsChain StandsIn (statement :: block :: outer) :=
    List.isChain_cons_cons.mpr ⟨hdeclares.direct, hchain.suffix hblock⟩
  rcases hreached.looksAt hwithin with ⟨last, hlast, hlooks⟩ | ⟨f, hf, body, hbody, hlooks⟩
  · have hroot : [last] = [root] :=
      (List.suffix_of_suffix_length_le (hlast.trans hblock) hsuffix (Nat.le_refl 1)).eq_of_length rfl
    cases hroot
    refine Scope.lookup_isSome_of_mem (f := (extract path text root).frame) (by simp [scopeInside]) ?_
    rw [get?_frame_extract_of_looksAt hlooks hd]
    rfl
  · obtain ⟨frame, hframe, hbound⟩ := openedFrame?_of_looksAt hbody hlooks hd
    have hmem : f ∈ p.around := haround ▸ List.mem_append_right _ hf
    refine Scope.lookup_isSome_of_mem (List.mem_append_left _ (List.mem_filterMap.mpr ⟨f, hmem, hframe⟩)) ?_
    rw [hbound]
    rfl

theorem forall₂_call? (src : Source) (frame : Frame) (places : List Place) :
    List.Forall₂ (fun p call => p ∈ places ∧ p.call? src frame = some call) (places.filter (isCall ·.node))
      (places.filterMap (·.call? src frame)) := by
  suffices h : List.Forall₂ (fun p call => p.call? src frame = some call) (places.filter (isCall ·.node))
      (places.filterMap (·.call? src frame)) from
    forall₂_imp_of_mem h fun p hp call hcall => ⟨List.mem_of_mem_filter hp, hcall⟩
  induction places with
  | nil => exact .nil
  | cons p places ih =>
    by_cases h : isCall p.node
    · have hcall := Place.call?_of_isCall src frame h
      rw [List.filter_cons_of_pos (a := p) h, List.filterMap_cons_some hcall]
      exact .cons hcall ih
    · rw [List.filter_cons_of_neg (a := p) h, List.filterMap_cons_none (Place.call?_of_not_isCall src frame h)]
      exact ih

/-- In every tree without faults, what a direct statement of a block declares is found from every call inside the
block, the left-most name of its callee included, if hoisting looks at the statement. -/
theorem block_names_found {root : Node} (hsound : root.hasFault = false) (path text : String) :
    let src := Source.ofString text
    ∃ m, Module.ofTree path text root = .ok m ∧
      List.Forall₂ (fun p call => call.callee = calleeAt src p.node ∧ ∃ scope, call.scope = some scope ∧
          ∀ inner block outer statement x, p.around = inner ++ block :: outer → BlockDeclares src block statement x →
            Reached (statement :: block :: outer) → (scope.lookup x).isSome)
        ((placesOf [] root).filter (isCall ·.node)) m.calls := by
  intro src
  refine ⟨extract path text root, ofTree_eq_ok hsound path text, ?_⟩
  rw [calls_extract]
  refine forall₂_imp_of_mem (forall₂_call? _ _ _) ?_
  rintro p hp call ⟨hplace, hcall⟩
  rw [Place.call?_of_isCall _ _ (List.mem_filter.mp hp).2] at hcall
  cases hcall
  refine ⟨rfl, _, rfl, ?_⟩
  intro inner block outer statement x haround hdeclares hreached
  exact lookup_of_blockDeclares hplace haround hdeclares hreached

section Trees

/-- The declaration in `{ function f() {} f(); }`, a block that starts at the byte `o`. -/
def innerFunction (o : Nat) : Node :=
  .branch "function_declaration" (o + 2) (o + 17)
    [.token "function" (o + 2) (o + 10), (Node.leaf "identifier" (o + 11) (o + 12)).inField "name",
      (Node.branch "formal_parameters" (o + 12) (o + 14) [.token "(" (o + 12) (o + 13), .token ")" (o + 13) (o + 14)]).inField
        "parameters",
      (Node.branch "statement_block" (o + 15) (o + 17)
        [.token "\x7b" (o + 15) (o + 16), .token "\x7d" (o + 16) (o + 17)]).inField "body"]

/-- The pattern in `{ const [f] = gs; f(); }`. -/
def innerPattern (o : Nat) : Node :=
  .branch "array_pattern" (o + 8) (o + 11) [.token "[" (o + 8) (o + 9), .leaf "identifier" (o + 9) (o + 10),
    .token "]" (o + 10) (o + 11)]

def innerDeclarator (o : Nat) : Node :=
  .branch "variable_declarator" (o + 8) (o + 16) [(innerPattern o).inField "name", .token "=" (o + 12) (o + 13),
    (Node.leaf "identifier" (o + 14) (o + 16)).inField "value"]

def innerConst (o : Nat) : Node :=
  .branch "lexical_declaration" (o + 2) (o + 17) [(Node.token "const" (o + 2) (o + 7)).inField "kind", innerDeclarator o,
    .token ";" (o + 16) (o + 17)]

def innerCall (o : Nat) : Node :=
  .branch "call_expression" (o + 18) (o + 21) [(Node.leaf "identifier" (o + 18) (o + 19)).inField "function",
    (Node.branch "arguments" (o + 19) (o + 21) [.token "(" (o + 19) (o + 20), .token ")" (o + 20) (o + 21)]).inField
      "arguments"]

def innerStatement (o : Nat) : Node :=
  .branch "expression_statement" (o + 18) (o + 22) [innerCall o, .token ";" (o + 21) (o + 22)]

def innerBlock (declaration : Node) (o : Nat) : Node :=
  .branch "statement_block" o (o + 24) [.token "\x7b" o (o + 1), declaration, innerStatement o,
    .token "\x7d" (o + 23) (o + 24)]

def outerBody (declaration : Node) : Node :=
  (Node.branch "statement_block" 13 41 [.token "\x7b" 13 14, innerBlock declaration 15, .token "\x7d" 40 41]).inField "body"

def outerFunction (declaration : Node) : Node :=
  .branch "function_declaration" 0 41 [.token "function" 0 8, (Node.leaf "identifier" 9 10).inField "name",
    (Node.branch "formal_parameters" 10 12 [.token "(" 10 11, .token ")" 11 12]).inField "parameters",
    outerBody declaration]

/-- The tree of `function g() { { function f() {} f(); } }`, and of the same text with the other block. -/
def functionTree (declaration : Node) : Node := .branch "program" 0 41 [outerFunction declaration]

/-- The tree of `namespace N { function f() {} f(); }`. -/
def namespaceTree : Node :=
  .branch "program" 0 36 [.branch "expression_statement" 0 36 [.branch "internal_module" 0 36
    [.token "namespace" 0 9, (Node.leaf "identifier" 10 11).inField "name",
      (innerBlock (innerFunction 12) 12).inField "body"]]]

/-- The tree of `class A { static { function f() {} f(); } }`. -/
def staticBlockTree : Node :=
  .branch "program" 0 43 [.branch "class_declaration" 0 43 [.token "class" 0 5,
    (Node.leaf "type_identifier" 6 7).inField "name", (Node.branch "class_body" 8 43 [.token "\x7b" 8 9,
      .branch "class_static_block" 10 41 [.token "static" 10 16, (innerBlock (innerFunction 17) 17).inField "body"],
      .token "\x7d" 42 43]).inField "body"]]

theorem declares_innerFunction {src : Source} {o : Nat} (h : src.slice (o + 11) (o + 12) = "f") :
    Declares src (innerFunction o) "f" := by
  have hkind : "function_declaration" ∈ namedDeclarationKinds := by decide
  have hname : (innerFunction o).child? "name" = some ((Node.leaf "identifier" (o + 11) (o + 12)).inField "name") := rfl
  exact h ▸ .named hkind hname

theorem declares_innerConst {src : Source} {o : Nat} (h : src.slice (o + 9) (o + 10) = "f") :
    Declares src (innerConst o) "f" := by
  have hname : PatternBinds src (.leaf "identifier" (o + 9) (o + 10)) "f" := h ▸ .name (by decide : "identifier" ∈ nameKinds)
  have hkind : "array_pattern" ∈ ["object_pattern", "array_pattern", "rest_pattern", "formal_parameters"] := by decide
  have hpattern : PatternBinds src ((innerPattern o).inField "name") "f" := .part (.inner hkind List.mem_cons_self) hname
  exact .declarator (by decide : "lexical_declaration" ∈ variableKinds) (d := innerDeclarator o) List.mem_cons_self rfl
    rfl hpattern

def FindsName (text : String) (root : Node) (x : String) : Prop :=
  root.hasFault = false ∧ ∃ m call scope, Module.ofTree "a.ts" text root = .ok m ∧ m.calls = [call] ∧
    call.root = some x ∧ call.scope = some scope ∧ (scope.lookup x).isSome

theorem block_names_found_functionTree :
    FindsName "function g() \x7b \x7b function f() \x7b\x7d f(); \x7d \x7d" (functionTree (innerFunction 15)) "f" ∧
      FindsName "function g() \x7b \x7b const [f] = gs; f(); \x7d \x7d" (functionTree (innerConst 15)) "f" := by
  have hfinds : ∀ (text : String) (declaration : Node), (functionTree declaration).hasFault = false →
      (placesOf [] (functionTree declaration)).filter (isCall ·.node) =
        [⟨innerCall 15, [innerStatement 15, innerBlock declaration 15, outerBody declaration, outerFunction declaration,
          functionTree declaration]⟩] →
      (calleeAt (.ofString text) (innerCall 15)).root = some "f" →
      BlockDeclares (.ofString text) (innerBlock declaration 15) declaration "f" →
      FindsName text (functionTree declaration) "f" := by
    intro text declaration hsound hplaces hroot hdeclares
    obtain ⟨m, hm, hcalls⟩ := block_names_found hsound "a.ts" text
    rw [hplaces] at hcalls
    obtain ⟨call, hsingle⟩ := List.length_eq_one_iff.mp hcalls.length_eq.symm
    rw [hsingle] at hcalls
    obtain ⟨⟨hcallee, scope, hscope, hfound⟩, -⟩ := List.forall₂_cons.mp hcalls
    refine ⟨hsound, m, call, scope, hm, hsingle, (congrArg Callee.root hcallee).trans hroot, hscope, ?_⟩
    have hopen : "statement_block" ∉ closedKinds ∧ "statement_block" ∉ variableKinds := by decide
    have hbody : functionBody? (outerFunction declaration) = some (outerBody declaration) := rfl
    exact hfound [_] (innerBlock declaration 15) [_, _, _] declaration "f" rfl hdeclares
      (.child hopen.1 hopen.2 (.body hbody))
  refine ⟨hfinds _ _ (by decide) rfl (by decide) ⟨rfl, List.mem_cons_self, ?_⟩,
    hfinds _ _ (by decide) rfl (by decide) ⟨rfl, List.mem_cons_self, ?_⟩⟩
  · exact declares_innerFunction (by decide)
  · exact declares_innerConst (by decide)

/-- From a call in the tree the name is not found, although a block around the call declares it. -/
def MissesName (text : String) (root : Node) (x : String) : Prop :=
  ∃ m, Module.ofTree "a.ts" text root = .ok m ∧
    ∃ p ∈ placesOf [] root, ∃ call ∈ m.calls, p.call? (.ofString text) m.frame = some call ∧ call.root = some x ∧
      (∃ block ∈ p.around, ∃ statement, BlockDeclares (.ofString text) block statement x) ∧
      ∃ scope, call.scope = some scope ∧ scope.lookup x = none

theorem missesName_of_lookup {text : String} {root block statement : Node} {p : Place} {x : String}
    (hsound : root.hasFault = false) (hfind : (placesOf [] root).find? (isCall ·.node) = some p)
    (hroot : (calleeAt (.ofString text) p.node).root = some x) (hblock : block ∈ p.around)
    (hdeclares : BlockDeclares (.ofString text) block statement x)
    (hnone : (scopeInside (.ofString text) (extract "a.ts" text root).frame p.around).lookup x = none) :
    MissesName text root x := by
  have hp : p ∈ placesOf [] root := List.mem_of_find?_eq_some hfind
  have hkind : isCall p.node = true := List.find?_some (p := fun q : Place => isCall q.node) hfind
  have hcall := Place.call?_of_isCall (.ofString text) (extract "a.ts" text root).frame hkind
  refine ⟨_, ofTree_eq_ok hsound "a.ts" text, p, hp, _, ?_, hcall, hroot, ⟨block, hblock, statement, hdeclares⟩, _, rfl, hnone⟩
  rw [calls_extract]
  exact List.mem_filterMap.mpr ⟨p, hp, hcall⟩

/-- From a call in a namespace or in the static block of a class, a function that is declared beside it is not found. -/
theorem namespace_and_static_block_hide_names :
    MissesName "namespace N \x7b function f() \x7b\x7d f(); \x7d" namespaceTree "f" ∧
      MissesName "class A \x7b static \x7b function f() \x7b\x7d f(); \x7d \x7d" staticBlockTree "f" := by
  constructor
  · refine missesName_of_lookup (p := ⟨innerCall 12, [_, (innerBlock (innerFunction 12) 12).inField "body", _, _, _]⟩)
      (by decide) rfl (by decide +kernel) (.tail _ (.head _)) ⟨rfl, List.mem_cons_self, ?_⟩ (by decide +kernel)
    exact declares_innerFunction (by decide)
  · refine missesName_of_lookup (p := ⟨innerCall 17, [_, (innerBlock (innerFunction 17) 17).inField "body", _, _, _, _]⟩)
      (by decide) rfl (by decide +kernel) (.tail _ (.head _)) ⟨rfl, List.mem_cons_self, ?_⟩ (by decide +kernel)
    exact declares_innerFunction (by decide)

end Trees

end CorpusShape
