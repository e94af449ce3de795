import CorpusShape.Module.Extract
import CorpusShape.Proofs.Hoisting

/-!
# Calls and the places where they stand

A place of a syntax tree is a node that is reached from the root through named children, with the nodes around it.
The places are listed in pre-order by recursion over the tree. What surrounds a call is read off the nodes around it:
every function and every catch clause among them opens a frame, and the nearest class is the owner. The walk with
pending nodes, which carries the surroundings along, finds the calls and the member names of exactly these places, in
this order.
-/
namespace CorpusShape

open Syntax

/-- A node with the nodes around it, innermost first. -/
structure Place where
  node : Node
  around : List Node

mutual
/-- The places of a tree that stands inside the given nodes, in pre-order. -/
def placesOf (around : List Node) : Node → List Place
  | n@⟨_, _, _, _, _, _, children⟩ => ⟨n, around⟩ :: placesOfNamed (n :: around) children

def placesOfNamed (around : List Node) : List Node → List Place
  | [] => []
  | n :: rest => (if n.named then placesOf around n else []) ++ placesOfNamed around rest
end

theorem placesOfNamed_eq (around : List Node) (ns : List Node) :
    placesOfNamed around ns = (ns.filter (·.named)).flatMap (placesOf around) := by
  induction ns with
  | nil => rfl
  | cons n rest ih =>
    rw [placesOfNamed, ih]
    by_cases h : n.named
    · simp [h]
    · simp [h]

theorem placesOf_eq (around : List Node) (n : Node) :
    placesOf around n = ⟨n, around⟩ :: n.namedChildren.flatMap (placesOf (n :: around)) := by
  cases n
  rw [placesOf, placesOfNamed_eq]
  rfl

def openedFrame? (src : Source) (n : Node) : Option Frame :=
  if functionKinds.contains n.kind then some (functionFrame src n)
  else if n.kind == "catch_clause" then some (catchFrame src n)
  else none

/-- The scope seen from inside the given nodes: the frames that they open, and that of the module. -/
def scopeInside (src : Source) (frame : Frame) (around : List Node) : Scope :=
  around.filterMap (openedFrame? src) ++ [frame]

theorem scopeInside_of_some {src : Source} {n : Node} {f : Frame} (h : openedFrame? src n = some f) (frame : Frame)
    (around : List Node) : scopeInside src frame (n :: around) = f :: scopeInside src frame around := by
  rw [scopeInside, List.filterMap_cons_some h]
  rfl

theorem scopeInside_of_none {src : Source} {n : Node} (h : openedFrame? src n = none) (frame : Frame)
    (around : List Node) : scopeInside src frame (n :: around) = scopeInside src frame around := by
  rw [scopeInside, List.filterMap_cons_none h]
  rfl

/-- The nearest class of the given nodes, as it is seen where it stands. -/
def ownerInside (src : Source) (frame : Frame) : List Node → Option ClassShape
  | [] => none
  | n :: outer =>
    if classKinds.contains n.kind then some (classShape src (scopeInside src frame outer) n)
    else ownerInside src frame outer

def surroundingsInside (src : Source) (frame : Frame) (around : List Node) : Surroundings :=
  ⟨scopeInside src frame around, ownerInside src frame around⟩

theorem not_class_of_function {kind : String} (h : functionKinds.contains kind = true) :
    classKinds.contains kind = false := by
  have hmem : kind ∈ functionKinds := by simpa using h
  fin_cases hmem <;> rfl

theorem not_object_of_class {kind : String} (h : kind ∈ classKinds) : kind ≠ "object" := by
  fin_cases h <;> decide

theorem not_catch_of_class {kind : String} (h : classKinds.contains kind = true) : (kind == "catch_clause") = false := by
  have hmem : kind ∈ classKinds := by simpa using h
  fin_cases hmem <;> rfl

/-- One step of the walk: inside a node the surroundings are those of the nodes around and the node itself. -/
theorem inside_surroundingsInside (src : Source) (frame : Frame) (around : List Node) (n : Node) :
    (surroundingsInside src frame around).inside src n = surroundingsInside src frame (n :: around) := by
  unfold Surroundings.inside
  by_cases hfunction : functionKinds.contains n.kind
  · have hopened : openedFrame? src n = some (functionFrame src n) := by rw [openedFrame?, if_pos hfunction]
    have hclass : ¬classKinds.contains n.kind = true := by simp only [not_class_of_function hfunction, Bool.false_eq_true,
      not_false_eq_true]
    rw [if_pos hfunction, surroundingsInside, surroundingsInside, scopeInside_of_some hopened, ownerInside,
      if_neg hclass]
  · rw [if_neg hfunction]
    by_cases hclass : classKinds.contains n.kind
    · have hopened : openedFrame? src n = none := by
        rw [openedFrame?, if_neg hfunction, not_catch_of_class hclass]
        rfl
      rw [if_pos hclass, surroundingsInside, surroundingsInside, scopeInside_of_none hopened, ownerInside, if_pos hclass]
    · rw [if_neg hclass]
      by_cases hcatch : n.kind == "catch_clause"
      · have hopened : openedFrame? src n = some (catchFrame src n) := by
          rw [openedFrame?, if_neg hfunction, if_pos hcatch]
        rw [if_pos hcatch, surroundingsInside, surroundingsInside, scopeInside_of_some hopened, ownerInside, if_neg hclass]
      · have hopened : openedFrame? src n = none := by rw [openedFrame?, if_neg hfunction, if_neg hcatch]
        rw [if_neg hcatch, surroundingsInside, surroundingsInside, scopeInside_of_none hopened, ownerInside, if_neg hclass]

def Place.call? (src : Source) (frame : Frame) (p : Place) : Option CallSite :=
  callAt? src (surroundingsInside src frame p.around) p.node

def Place.members (src : Source) (frame : Frame) (p : Place) : List String :=
  membersAt src (surroundingsInside src frame p.around) p.node

/-- The walk visits the places of the pending nodes one after the other. -/
theorem visitPending_eq (src : Source) (frame : Frame) (pending : List Place) (calls : List CallSite)
    (members : List String) :
    visitPending src calls members (pending.map fun p => (p.node, surroundingsInside src frame p.around)) =
      (((pending.flatMap fun p => placesOf p.around p.node).filterMap (·.call? src frame)).reverse ++ calls,
        ((pending.flatMap fun p => placesOf p.around p.node).flatMap (·.members src frame)).reverse ++ members) := by
  induction hn : Node.sizes (pending.map (·.node)) using Nat.strong_induction_on generalizing pending calls members with
  | h size ih =>
    match pending with
    | [] => simp [visitPending]
    | p :: pending =>
      have hinner : (p.node.namedChildren.map (·, (surroundingsInside src frame p.around).inside src p.node)) ++
            pending.map (fun q => (q.node, surroundingsInside src frame q.around)) =
          (p.node.namedChildren.map (fun c => (⟨c, p.node :: p.around⟩ : Place)) ++ pending).map
            fun q => (q.node, surroundingsInside src frame q.around) := by
        simp [inside_surroundingsInside, Function.comp_def]
      have hsmaller : Node.sizes ((p.node.namedChildren.map (fun c => (⟨c, p.node :: p.around⟩ : Place)) ++
          pending).map (·.node)) < size := by
        have hlt := p.node.sizes_namedChildren_lt
        have hnodes : (p.node.namedChildren.map (fun c => (⟨c, p.node :: p.around⟩ : Place))).map (·.node) =
            p.node.namedChildren := by simp [Function.comp_def]
        rw [List.map_append, hnodes, Node.sizes_append]
        rw [List.map_cons, Node.sizes_cons] at hn
        omega
      have hplaces : (p :: pending).flatMap (fun p => placesOf p.around p.node) =
          p :: (p.node.namedChildren.map (fun c => (⟨c, p.node :: p.around⟩ : Place)) ++ pending).flatMap
            fun p => placesOf p.around p.node := by
        rw [List.flatMap_cons, placesOf_eq, List.flatMap_append, List.flatMap_map]
        rfl
      rw [hplaces, List.map_cons, visitPending, hinner, ih _ hsmaller _ _ _ rfl]
      have hmembers : membersAt src (surroundingsInside src frame p.around) p.node = p.members src frame := rfl
      have hcall : callAt? src (surroundingsInside src frame p.around) p.node = p.call? src frame := rfl
      rw [hmembers, hcall]
      cases hp : p.call? src frame with
      | none => simp [hp]
      | some call => simp [hp]

/-- The walk finds the calls and the member names of the places of the tree, in pre-order. -/
theorem findings_eq (src : Source) (root : Node) (frame : Frame) :
    findings src root frame =
      ⟨(placesOf [] root).filterMap (·.call? src frame), (placesOf [] root).flatMap (·.members src frame)⟩ := by
  have hvisit := visitPending_eq src frame [⟨root, []⟩] [] []
  have hstart : ([⟨root, []⟩] : List Place).map (fun p => (p.node, surroundingsInside src frame p.around)) =
      [(root, ⟨[frame], none⟩)] := rfl
  rw [hstart] at hvisit
  unfold findings
  rw [hvisit]
  simp

/-- The frame binds these names, all to declarations of the module itself, and no others. -/
def Frame.BindsExactly (f : Frame) (names : String → Prop) : Prop :=
  ∀ x, (names x → f.get? x = some .declared) ∧ (¬names x → f.get? x = none)

namespace Frame.BindsExactly
variable {f : Frame} {names : String → Prop}

theorem empty : Frame.BindsExactly [] fun _ => False := fun _ => ⟨False.elim, fun _ => rfl⟩

theorem congr {others : String → Prop} (h : f.BindsExactly names) (hsame : ∀ x, others x ↔ names x) :
    f.BindsExactly others := by
  intro x
  rw [hsame x]
  exact h x

theorem declareAll (h : f.BindsExactly names) (more : List String) :
    (f.declareAll more).BindsExactly fun x => names x ∨ x ∈ more := by
  intro x
  rw [Frame.get?_declareAll]
  by_cases hx : x ∈ more
  · simp [hx]
  · simpa [hx] using h x

theorem hoist (h : f.BindsExactly names) (src : Source) (root : Node) :
    (hoist src root f).BindsExactly fun x => names x ∨ Hoisted src root x := by
  intro x
  by_cases hx : Hoisted src root x
  · rw [get?_hoist_of_hoisted f hx]
    simp [hx]
  · rw [get?_hoist_of_not_hoisted f hx]
    simpa [hx] using h x

end Frame.BindsExactly

def opensScope (n : Node) : Bool := functionKinds.contains n.kind || n.kind == "catch_clause"

/-- The names that a node binds for what stands inside it: for a function its own name if it is an expression, its
parameters, and what is hoisted from a body that is a block; for a catch clause its parameter. -/
inductive BindsInside (src : Source) (n : Node) : String → Prop
  | own {name : Node} : n.kind ∈ functionExpressionKinds → n.child? "name" = some name →
      BindsInside src n (src.textOf name)
  | parameter {pattern : Node} {x : String} : n.kind ∈ functionKinds →
      (n.child? "parameters" <|> n.child? "parameter") = some pattern → PatternBinds src pattern x → BindsInside src n x
  | hoisted {body : Node} {x : String} : n.kind ∈ functionKinds → n.child? "body" = some body →
      body.kind = "statement_block" → Hoisted src body x → BindsInside src n x
  | caught {pattern : Node} {x : String} : n.kind = "catch_clause" → n.child? "parameter" = some pattern →
      PatternBinds src pattern x → BindsInside src n x

theorem bindsInside_function {src : Source} {n : Node} (h : n.kind ∈ functionKinds) {x : String} :
    BindsInside src n x ↔
      (∃ name, n.kind ∈ functionExpressionKinds ∧ n.child? "name" = some name ∧ x = src.textOf name) ∨
      x ∈ patternNames? src (n.child? "parameters" <|> n.child? "parameter") ∨
      ∃ body, n.child? "body" = some body ∧ body.kind = "statement_block" ∧ Hoisted src body x := by
  have hcatch : n.kind ≠ "catch_clause" := fun he => absurd (he ▸ h) (by decide)
  constructor
  · rintro (⟨hkind, hname⟩ | ⟨-, hpattern, hx⟩ | ⟨-, hbody, hblock, hx⟩ | ⟨hkind, -, -⟩)
    · exact .inl ⟨_, hkind, hname, rfl⟩
    · exact .inr (.inl (mem_patternNames?_iff.mpr ⟨_, hpattern, hx⟩))
    · exact .inr (.inr ⟨_, hbody, hblock, hx⟩)
    · exact absurd hkind hcatch
  · rintro (⟨name, hkind, hname, rfl⟩ | hx | ⟨body, hbody, hblock, hx⟩)
    · exact .own hkind hname
    · obtain ⟨pattern, hpattern, hx⟩ := mem_patternNames?_iff.mp hx
      exact .parameter h hpattern hx
    · exact .hoisted h hbody hblock hx

/-- The name of a function expression, which only the function itself sees. -/
def ownNames (src : Source) (n : Node) : List String :=
  if functionExpressionKinds.contains n.kind then (n.child? "name").toList.map src.textOf else []

/-- What a function binds before its body is looked at. -/
def signatureFrame (src : Source) (n : Node) : Frame :=
  (Frame.declareAll [] (ownNames src n)).declareAll (patternNames? src (n.child? "parameters" <|> n.child? "parameter"))

theorem functionFrame_eq (src : Source) (n : Node) :
    functionFrame src n =
      match n.child? "body" with
      | some body =>
        if body.kind == "statement_block" then hoist src body (signatureFrame src n) else signatureFrame src n
      | none => signatureFrame src n := by
  unfold functionFrame signatureFrame ownNames
  cases n.child? "name" with
  | none => by_cases h : functionExpressionKinds.contains n.kind = true <;> simp only [h] <;> rfl
  | some name => by_cases h : functionExpressionKinds.contains n.kind = true <;> simp only [h] <;> rfl

theorem signatureFrame_bindsExactly (src : Source) (n : Node) :
    (signatureFrame src n).BindsExactly fun x =>
      (∃ name, n.kind ∈ functionExpressionKinds ∧ n.child? "name" = some name ∧ x = src.textOf name) ∨
      x ∈ patternNames? src (n.child? "parameters" <|> n.child? "parameter") := by
  refine ((Frame.BindsExactly.empty.declareAll _).declareAll _).congr fun x => ?_
  rw [false_or, ownNames]
  refine or_congr_left ?_
  by_cases hkind : functionExpressionKinds.contains n.kind = true
  · rw [if_pos hkind]
    simp [List.contains_iff_mem.mp hkind, eq_comm]
  · rw [if_neg hkind]
    simp [mt List.contains_iff_mem.mpr hkind]

theorem functionFrame_bindsExactly {src : Source} {n : Node} (h : n.kind ∈ functionKinds) :
    (functionFrame src n).BindsExactly (BindsInside src n) := by
  have hstart := signatureFrame_bindsExactly src n
  rw [functionFrame_eq]
  cases hbody : n.child? "body" with
  | none =>
    refine hstart.congr fun x => ?_
    rw [bindsInside_function h, hbody]
    simp
  | some body =>
    dsimp only
    by_cases hblock : body.kind = "statement_block"
    · rw [if_pos (beq_iff_eq.mpr hblock)]
      refine (hstart.hoist src body).congr fun x => ?_
      rw [bindsInside_function h, hbody]
      simp [hblock, or_assoc]
    · rw [if_neg (mt beq_iff_eq.mp hblock)]
      refine hstart.congr fun x => ?_
      rw [bindsInside_function h, hbody]
      simp [hblock]

theorem catchFrame_bindsExactly {src : Source} {n : Node} (h : n.kind = "catch_clause") :
    (catchFrame src n).BindsExactly (BindsInside src n) := by
  refine (Frame.BindsExactly.empty.declareAll (patternNames? src (n.child? "parameter"))).congr fun x => ?_
  have hfunction : n.kind ∉ functionKinds := fun he => absurd (h ▸ he) (by decide)
  have hexpression : n.kind ∉ functionExpressionKinds := fun he => absurd (h ▸ he) (by decide)
  constructor
  · rintro (⟨hkind, -⟩ | ⟨hkind, -, -⟩ | ⟨hkind, -, -, -⟩ | ⟨-, hpattern, hx⟩)
    · exact absurd hkind hexpression
    · exact absurd hkind hfunction
    · exact absurd hkind hfunction
    · exact .inr (mem_patternNames?_iff.mpr ⟨_, hpattern, hx⟩)
  · rintro (hfalse | hx)
    · exact hfalse.elim
    · obtain ⟨pattern, hpattern, hx⟩ := mem_patternNames?_iff.mp hx
      exact .caught h hpattern hx

theorem openedFrame?_of_opensScope (src : Source) {n : Node} (h : opensScope n = true) :
    ∃ f, openedFrame? src n = some f ∧ f.BindsExactly (BindsInside src n) := by
  unfold openedFrame?
  by_cases hfunction : functionKinds.contains n.kind
  · rw [if_pos hfunction]
    exact ⟨_, rfl, functionFrame_bindsExactly (by simpa using hfunction)⟩
  · have hcatch : (n.kind == "catch_clause") = true := (Bool.or_eq_true_iff.mp h).resolve_left hfunction
    rw [if_neg hfunction, if_pos hcatch]
    exact ⟨_, rfl, catchFrame_bindsExactly (beq_iff_eq.mp hcatch)⟩

theorem openedFrame?_of_not_opensScope {src : Source} {n : Node} (h : ¬opensScope n = true) :
    openedFrame? src n = none := by
  unfold opensScope at h
  rw [Bool.or_eq_true, not_or] at h
  rw [openedFrame?, if_neg h.1, if_neg h.2]

/-- The frames in a scope are those of the functions and catch clauses around, and each binds their names. -/
theorem scopeInside_frames (src : Source) (frame : Frame) (around : List Node) :
    ∃ frames, scopeInside src frame around = frames ++ [frame] ∧
      List.Forall₂ (fun n f => Frame.BindsExactly f (BindsInside src n)) (around.filter opensScope) frames := by
  refine ⟨around.filterMap (openedFrame? src), rfl, ?_⟩
  induction around with
  | nil => exact .nil
  | cons n outer ih =>
    by_cases h : opensScope n
    · obtain ⟨f, hf, hbinds⟩ := openedFrame?_of_opensScope src h
      rw [List.filter_cons_of_pos h, List.filterMap_cons_some hf]
      exact .cons hbinds ih
    · rw [List.filter_cons_of_neg h, List.filterMap_cons_none (openedFrame?_of_not_opensScope h)]
      exact ih

/-- A call that is no tagged template. -/
def isCall (n : Node) : Bool := n.kind == "call_expression" && !(n.child? "arguments").any (·.kind == "template_string")

def calleeAt (src : Source) (n : Node) : Callee :=
  match n.child? "function" with
  | none => { kind := .other }
  | some callee => calleeOf src callee

def CallSite.callee (call : CallSite) : Callee := ⟨call.kind, call.root, call.members⟩

theorem Place.call?_of_isCall (src : Source) (frame : Frame) {p : Place} (h : isCall p.node = true) :
    p.call? src frame = some
      { line := src.line p.node.start, text := src.textOf? (p.node.child? "function"),
        kind := (calleeAt src p.node).kind, root := (calleeAt src p.node).root,
        members := (calleeAt src p.node).members, scope := some (scopeInside src frame p.around),
        owner := ownerInside src frame p.around } := by
  obtain ⟨hkind, htagged⟩ := Bool.and_eq_true_iff.mp h
  have hcall : ¬(p.node.child? "arguments").any (·.kind == "template_string") = true := by simpa using htagged
  unfold Place.call? callAt? callSite? calleeAt
  rw [if_pos hkind, if_neg hcall]
  cases p.node.child? "function" with
  | none => rfl
  | some callee => rfl

theorem Place.call?_of_not_isCall (src : Source) (frame : Frame) {p : Place} (h : ¬isCall p.node = true) :
    p.call? src frame = none := by
  unfold Place.call? callAt?
  by_cases hkind : p.node.kind == "call_expression"
  · have htagged : (p.node.child? "arguments").any (·.kind == "template_string") = true := by
      simpa [isCall, hkind] using h
    rw [if_pos hkind, callSite?, if_pos htagged]
  · rw [if_neg hkind]

/-- The scope seen from inside the given nodes: one frame for each function and catch clause among them, innermost
first, which binds exactly its names, and then the frame of the module. -/
def SeenInside (src : Source) (frame : Frame) (around : List Node) (scope : Option Scope) : Prop :=
  ∃ frames, scope = some (frames ++ [frame]) ∧
    List.Forall₂ (fun n f => Frame.BindsExactly f (BindsInside src n)) (around.filter opensScope) frames

/-- The class that a node is, as it is seen from inside the given nodes. -/
structure ClassAt (src : Source) (frame : Frame) (n : Node) (outer : List Node) (shape : ClassShape) : Prop where
  name : shape.name = (n.child? "name").map src.textOf
  line : shape.line = src.line n.start
  members : ∀ x, x ∈ shape.members ↔ HasMember src n x
  scope : SeenInside src frame outer shape.scope
  parsed : ∃ scope, shape = classShape src scope n

/-- The owner of what stands inside the given nodes: the nearest class of them, if there is one. -/
inductive OwnedInside (src : Source) (frame : Frame) : List Node → Option ClassShape → Prop
  | none {around : List Node} : (∀ n ∈ around, n.kind ∉ classKinds) → OwnedInside src frame around none
  | nearest {inner outer : List Node} {n : Node} {shape : ClassShape} : (∀ m ∈ inner, m.kind ∉ classKinds) →
      n.kind ∈ classKinds → ClassAt src frame n outer shape → OwnedInside src frame (inner ++ n :: outer) (some shape)

/-- The call site of a call at a place: the frames in its scope are those that the functions and catch clauses around
it open, innermost first, and then the module's own, and its owner is the nearest class. -/
structure SiteAt (src : Source) (frame : Frame) (p : Place) (site : CallSite) : Prop where
  line : site.line = src.line p.node.start
  text : site.text = src.textOf? (p.node.child? "function")
  callee : site.callee = calleeAt src p.node
  scope : SeenInside src frame p.around site.scope
  owner : OwnedInside src frame p.around site.owner

theorem classAt_classShape (src : Source) (frame : Frame) (n : Node) (outer : List Node) :
    ClassAt src frame n outer (classShape src (scopeInside src frame outer) n) := by
  obtain ⟨frames, hscope, hframes⟩ := scopeInside_frames src frame outer
  obtain ⟨hname, hrest⟩ := Prod.mk.inj (head_classShape src (scopeInside src frame outer) n)
  obtain ⟨hline, hscope'⟩ := Prod.mk.inj hrest
  exact ⟨hname, hline, fun x => mem_members_classShape_iff _, ⟨frames, hscope ▸ hscope', hframes⟩, _, rfl⟩

theorem ownedInside_ownerInside (src : Source) (frame : Frame) (around : List Node) :
    OwnedInside src frame around (ownerInside src frame around) := by
  induction around with
  | nil => exact .none (by simp)
  | cons n outer ih =>
    rw [ownerInside]
    by_cases hclass : classKinds.contains n.kind = true
    · rw [if_pos hclass]
      have hnone : ∀ m ∈ ([] : List Node), m.kind ∉ classKinds := by simp
      exact .nearest hnone (List.contains_iff_mem.mp hclass) (classAt_classShape src frame n outer)
    · rw [if_neg hclass]
      have hn : n.kind ∉ classKinds := mt List.contains_iff_mem.mpr hclass
      generalize ownerInside src frame outer = owner at ih ⊢
      cases ih with
      | none hnone => exact .none (List.forall_mem_cons.mpr ⟨hn, hnone⟩)
      | nearest hinner hkind hshape =>
        rw [← List.cons_append]
        exact .nearest (List.forall_mem_cons.mpr ⟨hn, hinner⟩) hkind hshape

theorem forall₂_siteAt (src : Source) (frame : Frame) (places : List Place) :
    List.Forall₂ (SiteAt src frame) (places.filter (isCall ·.node)) (places.filterMap (·.call? src frame)) := by
  induction places with
  | nil => exact .nil
  | cons p places ih =>
    by_cases h : isCall p.node
    · obtain ⟨frames, hscope, hframes⟩ := scopeInside_frames src frame p.around
      rw [List.filter_cons_of_pos (a := p) h, List.filterMap_cons_some (Place.call?_of_isCall src frame h)]
      exact .cons ⟨rfl, rfl, rfl, ⟨frames, congrArg some hscope, hframes⟩, ownedInside_ownerInside _ _ _⟩ ih
    · rw [List.filter_cons_of_neg (a := p) h, List.filterMap_cons_none (Place.call?_of_not_isCall src frame h)]
      exact ih

theorem Place.mem_members {src : Source} (frame : Frame) {p : Place} {x : String} :
    x ∈ p.members src frame ↔
      (p.node.kind ∈ classKinds ∧ HasMember src p.node x) ∨ (p.node.kind = "object" ∧ HasKey src p.node x) := by
  rw [← mem_members_classShape_iff (scopeInside src frame p.around), ← mem_objectKeys_iff]
  have hshape : (surroundingsInside src frame p.around).scope = scopeInside src frame p.around := rfl
  rw [Place.members, membersAt, hshape]
  by_cases hclass : classKinds.contains p.node.kind = true
  · have hmem := List.contains_iff_mem.mp hclass
    have hfunction : ¬functionKinds.contains p.node.kind = true := fun hf => by
      rw [not_class_of_function hf] at hclass
      contradiction
    rw [if_neg hfunction, if_pos hclass]
    simp [hmem, not_object_of_class hmem]
  · have hmem := mt List.contains_iff_mem.mpr hclass
    rw [if_neg hclass]
    by_cases hobject : p.node.kind = "object"
    · have hfunction : ¬functionKinds.contains p.node.kind = true := by
        rw [hobject]
        decide
      rw [if_neg hfunction, if_pos (beq_iff_eq.mpr hobject), and_iff_right hobject, or_iff_right fun hx => hmem hx.1]
    · rw [if_neg (mt beq_iff_eq.mp hobject), ite_self]
      simp [hmem, hobject]

theorem calls_extract (path text : String) (root : Node) :
    (extract path text root).calls =
      (placesOf [] root).filterMap (·.call? (.ofString text) (extract path text root).frame) :=
  congrArg Findings.calls (findings_eq (.ofString text) root (extract path text root).frame)

theorem members_extract (path text : String) (root : Node) :
    (extract path text root).members =
      (placesOf [] root).flatMap (·.members (.ofString text) (extract path text root).frame) :=
  congrArg Findings.members (findings_eq (.ofString text) root (extract path text root).frame)

theorem ofTree_eq_ok {root : Node} (h : root.hasFault = false) (path text : String) :
    Module.ofTree path text root = .ok (extract path text root) := by
  rw [Module.ofTree, h]
  rfl

/-- In every tree without faults the calls are those of the call expressions among the places, once each and in
pre-order, with the frames and the class that the nodes around them give; and the member names of the module are the
members of the classes and the statically named keys of the objects among the places. -/
theorem calls_stand_at_places {root : Node} (h : root.hasFault = false) (path text : String) :
    let src := Source.ofString text
    ∃ m, Module.ofTree path text root = .ok m ∧
      List.Forall₂ (SiteAt src m.frame) ((placesOf [] root).filter (isCall ·.node)) m.calls ∧
      ∀ x, x ∈ m.members ↔ ∃ p ∈ placesOf [] root,
        (p.node.kind ∈ classKinds ∧ HasMember src p.node x) ∨ (p.node.kind = "object" ∧ HasKey src p.node x) := by
  intro src
  refine ⟨extract path text root, ofTree_eq_ok h path text, ?_, fun x => ?_⟩
  · rw [calls_extract]
    exact forall₂_siteAt _ _ _
  · rw [members_extract, List.mem_flatMap]
    exact exists_congr fun p => and_congr_right fun _ => Place.mem_members _

section Owners
variable {src : Source} {frame : Frame} {n : Node} {outer : List Node} {owner : Option ClassShape}

theorem OwnedInside.of_class (h : OwnedInside src frame (n :: outer) owner) (hn : n.kind ∈ classKinds) :
    ∃ shape, owner = some shape ∧ ClassAt src frame n outer shape := by
  generalize haround : n :: outer = around at h
  cases h with
  | none hnone => exact absurd hn (hnone n (haround ▸ List.mem_cons_self))
  | @nearest inner outer' n' shape hinner _ hshape =>
    cases inner with
    | nil =>
      cases haround
      exact ⟨shape, rfl, hshape⟩
    | cons m inner =>
      cases haround
      exact absurd hn (hinner _ List.mem_cons_self)

theorem OwnedInside.of_other (h : OwnedInside src frame (n :: outer) owner) (hn : n.kind ∉ classKinds) :
    OwnedInside src frame outer owner := by
  generalize haround : n :: outer = around at h
  cases h with
  | none hnone => exact .none fun m hm => hnone m (haround ▸ List.mem_cons_of_mem _ hm)
  | @nearest inner outer' n' shape hinner hkind hshape =>
    cases inner with
    | nil =>
      cases haround
      exact absurd hkind hn
    | cons m inner =>
      cases haround
      exact .nearest (fun m hm => hinner m (List.mem_cons_of_mem _ hm)) hkind hshape

end Owners

section Trees

/-- The call in `class A { m = x => x({ k: 1 }) }`. -/
def fieldCall : Node :=
  (Node.branch "call_expression" 19 30 [(Node.leaf "identifier" 19 20).inField "function",
    (Node.branch "arguments" 20 30 [.token "(" 20 21, .branch "object" 21 29 [.token "\x7b" 21 22,
      .branch "pair" 23 27 [(Node.leaf "property_identifier" 23 24).inField "key", .token ":" 24 25,
        (Node.leaf "number" 26 27).inField "value"],
      .token "\x7d" 28 29], .token ")" 29 30]).inField "arguments"]).inField "body"

def fieldFunction : Node :=
  (Node.branch "arrow_function" 14 30 [(Node.leaf "identifier" 14 15).inField "parameter", .token "=>" 16 18,
    fieldCall]).inField "value"

def fieldNode : Node :=
  .branch "public_field_definition" 10 30 [(Node.leaf "property_identifier" 10 11).inField "name", .token "=" 12 13,
    fieldFunction]

def fieldBody : Node :=
  (Node.branch "class_body" 8 32 [.token "\x7b" 8 9, fieldNode, .token "\x7d" 31 32]).inField "body"

def fieldClass : Node :=
  .branch "class_declaration" 0 32 [.token "class" 0 5, (Node.leaf "type_identifier" 6 7).inField "name", fieldBody]

def fieldTree : Node := .branch "program" 0 32 [fieldClass]

def fieldText : String := "class A \x7b m = x => x(\x7b k: 1 \x7d) \x7d"

theorem bindsInside_fieldFunction (x : String) : BindsInside (.ofString fieldText) fieldFunction x ↔ x = "x" := by
  have hkind : fieldFunction.kind ∈ functionKinds := by decide
  have hparameters : patternNames? (.ofString fieldText) (fieldFunction.child? "parameters" <|>
      fieldFunction.child? "parameter") = ["x"] := by decide
  have hown : fieldFunction.kind ∉ functionExpressionKinds := by decide
  have hbody : fieldFunction.child? "body" = some fieldCall := rfl
  have hblock : fieldCall.kind ≠ "statement_block" := by decide
  rw [bindsInside_function hkind, hparameters, hbody]
  simp [hown, hblock]

theorem calls_stand_at_places_fieldTree :
    fieldTree.hasFault = false ∧
      ∃ m call frame owner, Module.ofTree "a.ts" fieldText fieldTree = .ok m ∧ m.calls = [call] ∧
        call.scope = some [frame, m.frame] ∧ frame.get? "x" = some .declared ∧ frame.get? "k" = none ∧
        call.owner = some owner ∧ owner.name = some "A" ∧ owner.scope = some [m.frame] ∧
        (∀ x, x ∈ owner.members ↔ x = "m") ∧ ∀ x, x ∈ m.members ↔ x = "m" ∨ x = "k" := by
  have h : fieldTree.hasFault = false := by decide
  obtain ⟨m, hm, hcalls, hmembers⟩ := calls_stand_at_places h "a.ts" fieldText
  have hplaces : (placesOf [] fieldTree).filter (isCall ·.node) =
      [⟨fieldCall, [fieldFunction, fieldNode, fieldBody, fieldClass, fieldTree]⟩] := rfl
  rw [hplaces] at hcalls
  obtain ⟨call, hsingle⟩ := List.length_eq_one_iff.mp hcalls.length_eq.symm
  rw [hsingle] at hcalls
  obtain ⟨hsite, -⟩ := List.forall₂_cons.mp hcalls
  -- One function stands around the call, and outside of it the class.
  obtain ⟨frames, hscope, hframes⟩ := hsite.scope
  have hopened : [fieldFunction, fieldNode, fieldBody, fieldClass, fieldTree].filter opensScope = [fieldFunction] := rfl
  rw [hopened] at hframes
  obtain ⟨frame, rest, hbinds, hnil, rfl⟩ := List.forall₂_cons_left_iff.mp hframes
  cases hnil
  have howned := ((hsite.owner.of_other (by decide)).of_other (by decide)).of_other (by decide)
  obtain ⟨owner, howner, hclass⟩ := howned.of_class (by decide)
  obtain ⟨none, hnone, hmodule⟩ := hclass.scope
  have houter : [fieldTree].filter opensScope = [] := rfl
  rw [houter] at hmodule
  cases hmodule
  refine ⟨h, m, call, frame, owner, hm, hsingle, hscope, (hbinds "x").1 ((bindsInside_fieldFunction _).mpr rfl),
    (hbinds "k").2 (mt (bindsInside_fieldFunction _).mp (by decide)), howner, hclass.name.trans (by decide), hnone,
    fun x => ?_, fun x => ?_⟩
  · have hlisted : (classShape (.ofString fieldText) [] fieldClass).members = ["m"] := by decide
    rw [hclass.members, ← mem_members_classShape_iff [], hlisted, List.mem_singleton]
  · have hlisted : (placesOf [] fieldTree).flatMap (·.members (.ofString fieldText) []) = ["m", "k"] := by decide
    rw [hmembers]
    simp only [← Place.mem_members [], ← List.mem_flatMap, hlisted, List.mem_cons, List.not_mem_nil, or_false]

end Trees

end CorpusShape
