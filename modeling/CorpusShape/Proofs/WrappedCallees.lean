import CorpusShape.Proofs.MemberCalls

/-!
# Callees inside transparent nodes

Parentheses, casts and non-null marks stand for the first named node inside them. They may be put around a callee and
around every object along its chain of accesses, any number of them at any depth: the callee keeps its form, its
left-most name and its members. A chain of accesses that starts at a name, at `this` or at `super` is read from its root
outwards, whatever transparent nodes stand between the accesses.
-/
namespace CorpusShape

open Syntax

/-- The first node is transparent, and the second one is what it stands for. -/
def Wraps (w n : Node) : Prop := w.kind ∈ transparentKinds ∧ w.namedChildren.head? = some n

def accessKinds : List String := ["member_expression", "subscript_expression"]

/-- A node that stands for no other one and has no object inside it that it accesses. -/
def Bare (n : Node) : Prop := (∀ inner, ¬Wraps n inner) ∧ (n.kind ∈ accessKinds → n.child? "object" = none)

/-- Two nodes of one kind that give the same name and the same member, each in its own text. -/
structure SameWords (s₁ s₂ : Source) (a b : Node) : Prop where
  kind : b.kind = a.kind
  name : a.kind = "identifier" → s₁.textOf a = s₂.textOf b
  property : a.kind = "member_expression" → s₁.textOf? (a.child? "property") = s₂.textOf? (b.child? "property")

/-- The second expression is the first one with transparent nodes put around it, or around objects that it accesses, at
any depth. Those that are there already are kept. -/
inductive Rewrapped (s₁ s₂ : Source) : Node → Node → Prop
  | bare {a b : Node} : Bare a → Bare b → SameWords s₁ s₂ a b → Rewrapped s₁ s₂ a b
  | access {a b o o' : Node} : a.kind ∈ accessKinds → SameWords s₁ s₂ a b → a.child? "object" = some o →
      b.child? "object" = some o' → Rewrapped s₁ s₂ o o' → Rewrapped s₁ s₂ a b
  | kept {a b a' b' : Node} : Wraps a a' → Wraps b b' → Rewrapped s₁ s₂ a' b' → Rewrapped s₁ s₂ a b
  | inserted {a b w : Node} : Wraps w b → Rewrapped s₁ s₂ a b → Rewrapped s₁ s₂ a w

section Wrappers
variable {src : Source} {n w : Node}

theorem not_transparent_of_access (h : n.kind ∈ accessKinds) : ¬transparentKinds.contains n.kind = true := by
  generalize n.kind = kind at h ⊢
  fin_cases h <;> decide

theorem unwrap_of_wraps (h : Wraps w n) : unwrap w = unwrap n := by
  rw [unwrap_eq, if_pos (List.contains_iff_mem.mpr h.1), h.2]
  rfl

theorem memberChain_of_wraps (h : Wraps w n) : memberChain src w = memberChain src n := by
  rw [memberChain_eq, if_pos (List.contains_iff_mem.mpr h.1), h.2]
  rfl

theorem unwrap_of_access (h : n.kind ∈ accessKinds) : unwrap n = n := by
  rw [unwrap_eq, if_neg (not_transparent_of_access h)]

theorem bare_of_kind (htransparent : n.kind ∉ transparentKinds) (haccess : n.kind ∉ accessKinds) : Bare n :=
  ⟨fun _ h => htransparent h.1, fun h => absurd h haccess⟩

/-- A node that stands for no other one is taken as it is. -/
theorem ite_head_of_not_wraps {α : Type} (h : ∀ inner, ¬Wraps n inner) (x : α) (f : Node → α) :
    (if transparentKinds.contains n.kind then n.namedChildren.head?.elim x f else x) = x := by
  by_cases hkind : transparentKinds.contains n.kind = true
  · rw [if_pos hkind]
    cases hhead : n.namedChildren.head? with
    | none => rfl
    | some inner => exact absurd ⟨List.contains_iff_mem.mp hkind, hhead⟩ (h inner)
  · rw [if_neg hkind]

theorem unwrap_of_not_wraps (h : ∀ inner, ¬Wraps n inner) : unwrap n = n := by
  rw [unwrap_eq]
  exact ite_head_of_not_wraps h n unwrap

/-- Looking inside transparent nodes first makes no difference to a chain. -/
theorem memberChain_unwrap (src : Source) (n : Node) : memberChain src (unwrap n) = memberChain src n := by
  induction n using Node.inductionOn with
  | h n ih =>
    by_cases hwraps : ∃ inner, Wraps n inner
    · obtain ⟨inner, hinner⟩ := hwraps
      have hmem : inner ∈ n.children := List.mem_of_mem_filter (List.mem_of_mem_head? hinner.2)
      rw [unwrap_of_wraps hinner, memberChain_of_wraps hinner]
      exact ih inner hmem
    · rw [unwrap_of_not_wraps (not_exists.mp hwraps)]

def accessedMember (src : Source) (n : Node) : String :=
  if n.kind = "member_expression" then src.textOf? (n.child? "property") else "[]"

theorem memberChain_of_access (h : n.kind ∈ accessKinds) :
    memberChain src n =
      (((n.child? "object").elim (none, []) (memberChain src)).1,
        ((n.child? "object").elim (none, []) (memberChain src)).2 ++ [accessedMember src n]) := by
  rw [memberChain_eq, if_neg (not_transparent_of_access h)]
  unfold accessedMember
  generalize n.kind = kind at h ⊢
  fin_cases h <;> rfl

theorem memberChain_of_bare (h : Bare n) (haccess : n.kind ∉ accessKinds) : memberChain src n = (some n, []) := by
  simp only [accessKinds, List.mem_cons, List.not_mem_nil, or_false, not_or] at haccess
  rw [memberChain_eq, if_neg (mt beq_iff_eq.mp haccess.1), if_neg (mt beq_iff_eq.mp haccess.2)]
  exact ite_head_of_not_wraps h.1 _ _

end Wrappers

namespace SameWords
variable {s₁ s₂ : Source} {a b : Node}

theorem accessedMember (h : SameWords s₁ s₂ a b) : accessedMember s₁ a = accessedMember s₂ b := by
  unfold CorpusShape.accessedMember
  rw [h.kind]
  split
  · rename_i hkind
    exact h.property hkind
  · rfl

theorem sameName (h : SameWords s₁ s₂ a b) : Mirrors.SameName s₁ s₂ a b := ⟨h.kind, h.name⟩

end SameWords

namespace Rewrapped
variable {s₁ s₂ : Source} {a b : Node}

/-- No transparent node has to be put in. -/
theorem refl (src : Source) (n : Node) : Rewrapped src src n n := by
  have hwords : ∀ n : Node, SameWords src src n n := fun n => ⟨rfl, fun _ => rfl, fun _ => rfl⟩
  induction n using Node.inductionOn with
  | h n ih =>
    by_cases hwraps : ∃ inner, Wraps n inner
    · obtain ⟨inner, hinner⟩ := hwraps
      exact .kept hinner hinner (ih inner (List.mem_of_mem_filter (List.mem_of_mem_head? hinner.2)))
    · by_cases haccess : n.kind ∈ accessKinds
      · cases hobject : n.child? "object" with
        | none =>
          have hbare : Bare n := ⟨not_exists.mp hwraps, fun _ => hobject⟩
          exact .bare hbare hbare (hwords n)
        | some o => exact .access haccess (hwords n) hobject hobject (ih o (List.mem_of_find?_eq_some hobject))
      · have hbare : Bare n := ⟨not_exists.mp hwraps, fun h => absurd h haccess⟩
        exact .bare hbare hbare (hwords n)

theorem unwrap (h : Rewrapped s₁ s₂ a b) : SameWords s₁ s₂ (unwrap a) (unwrap b) := by
  induction h with
  | bare ha hb hwords =>
    rw [unwrap_of_not_wraps ha.1, unwrap_of_not_wraps hb.1]
    exact hwords
  | access haccess hwords _ _ _ _ =>
    rw [unwrap_of_access haccess, unwrap_of_access (hwords.kind ▸ haccess)]
    exact hwords
  | kept ha hb _ ih =>
    rw [unwrap_of_wraps ha, unwrap_of_wraps hb]
    exact ih
  | inserted hw _ ih =>
    rw [unwrap_of_wraps hw]
    exact ih

theorem memberChain (h : Rewrapped s₁ s₂ a b) :
    Mirrors.SameChain (SameWords s₁ s₂) (memberChain s₁ a) (memberChain s₂ b) := by
  induction h with
  | @bare a b ha hb hwords =>
    by_cases haccess : a.kind ∈ accessKinds
    · -- An access without an object names a member, but there is nothing at the left of it.
      have hbaccess : b.kind ∈ accessKinds := hwords.kind ▸ haccess
      rw [memberChain_of_access haccess, memberChain_of_access hbaccess, ha.2 haccess, hb.2 hbaccess,
        hwords.accessedMember]
      exact ⟨.none, rfl⟩
    · rw [memberChain_of_bare ha haccess, memberChain_of_bare hb (hwords.kind ▸ haccess)]
      exact ⟨.some hwords, rfl⟩
  | access haccess hwords ho ho' _ ih =>
    rw [memberChain_of_access haccess, memberChain_of_access (hwords.kind ▸ haccess), ho, ho', hwords.accessedMember]
    exact ⟨ih.1, congrArg (· ++ [_]) ih.2⟩
  | kept ha hb _ ih =>
    rw [memberChain_of_wraps ha, memberChain_of_wraps hb]
    exact ih
  | inserted hw _ ih =>
    rw [memberChain_of_wraps hw]
    exact ih

theorem calleeOf (h : Rewrapped s₁ s₂ a b) : calleeOf s₁ a = calleeOf s₂ b := by
  have hchain := h.memberChain
  apply Mirrors.calleeOf_congr h.unwrap.sameName
  rw [memberChain_unwrap, memberChain_unwrap]
  exact ⟨optionRel_imp hchain.1 fun _ _ => SameWords.sameName, hchain.2⟩

end Rewrapped

/-- The second call is the first one with transparent nodes put into its callee. -/
structure RewrappedCall (s₁ s₂ : Source) (n m : Node) : Prop where
  arguments : (m.child? "arguments").map (·.kind) = (n.child? "arguments").map (·.kind)
  callee : Option.Rel (Rewrapped s₁ s₂) (n.child? "function") (m.child? "function")

section Calls
variable {s₁ s₂ : Source} {n m : Node}

theorem RewrappedCall.refl (src : Source) (n : Node) : RewrappedCall src src n n := by
  refine ⟨rfl, ?_⟩
  cases n.child? "function" with
  | none => exact .none
  | some callee => exact .some (Rewrapped.refl src callee)

theorem any_template_iff (n : Node) :
    (n.child? "arguments").any (·.kind == "template_string") = true ↔
      (n.child? "arguments").map (·.kind) = some "template_string" := by
  cases n.child? "arguments" with
  | none => simp
  | some arguments => simp

/-- A tagged template is no call. -/
theorem callSite?_of_tagged {src : Source} (h : (n.child? "arguments").map (·.kind) = some "template_string")
    (scope : Scope) (owner : Option ClassShape) : callSite? src scope owner n = none := by
  rw [callSite?, if_pos ((any_template_iff n).mpr h)]

/-- Every other call has a call site, with the callee of the call. -/
theorem exists_callSite? (src : Source) (h : (n.child? "arguments").map (·.kind) ≠ some "template_string")
    (scope : Scope) (owner : Option ClassShape) :
    ∃ c, callSite? src scope owner n = some c ∧ c.callee = calleeAt src n := by
  unfold callSite? calleeAt
  rw [if_neg (mt (any_template_iff n).mp h)]
  cases n.child? "function" with
  | none => exact ⟨_, rfl, rfl⟩
  | some callee => exact ⟨_, rfl, rfl⟩

theorem RewrappedCall.calleeAt (h : RewrappedCall s₁ s₂ n m) : calleeAt s₁ n = calleeAt s₂ m := by
  have hcallee := h.callee
  unfold CorpusShape.calleeAt
  generalize n.child? "function" = x at hcallee ⊢
  generalize m.child? "function" = y at hcallee ⊢
  cases hcallee with
  | none => rfl
  | some hxy => exact hxy.calleeOf

end Calls

inductive Access where
  | member (name : String)
  | index
deriving DecidableEq, Repr

def Access.label : Access → String
  | .member name => name
  | .index => "[]"

/-- The node is the root with the accesses made to it one after another, and transparent nodes anywhere between them. -/
inductive Spine (src : Source) (root : Node) : List Access → Node → Prop
  | root : root.kind ∈ ["identifier", "this", "super"] → Spine src root [] root
  | member {accesses : List Access} {object property n : Node} {name : String} : Spine src root accesses object →
      n.kind = "member_expression" → n.child? "object" = some object → n.child? "property" = some property →
      src.textOf property = name → Spine src root (accesses ++ [.member name]) n
  | index {accesses : List Access} {object n : Node} : Spine src root accesses object →
      n.kind = "subscript_expression" → n.child? "object" = some object → Spine src root (accesses ++ [.index]) n
  | wrapped {accesses : List Access} {n w : Node} : Spine src root accesses n → Wraps w n → Spine src root accesses w

theorem Spine.memberChain {src : Source} {root n : Node} {accesses : List Access} (h : Spine src root accesses n) :
    memberChain src n = (some root, accesses.map Access.label) := by
  induction h with
  | root hkind =>
    have hopen : ∀ kind ∈ ["identifier", "this", "super"], kind ∉ transparentKinds ∧ kind ∉ accessKinds := by decide
    obtain ⟨htransparent, haccess⟩ := hopen _ hkind
    exact memberChain_of_bare (bare_of_kind htransparent haccess) haccess
  | member _ hkind hobject hproperty hname ih =>
    rw [memberChain_of_access (hkind ▸ List.mem_cons_self), hobject, accessedMember, if_pos hkind, hproperty,
      Option.elim_some, ih, List.map_append, ← hname]
    rfl
  | @index accesses object n _ hkind hobject ih =>
    have hother : n.kind ≠ "member_expression" := by
      rw [hkind]
      decide
    rw [memberChain_of_access (hkind ▸ List.mem_cons_of_mem _ List.mem_cons_self), hobject, accessedMember,
      if_neg hother, Option.elim_some, ih, List.map_append]
    rfl
  | wrapped _ hw ih =>
    rw [memberChain_of_wraps hw]
    exact ih

section Spines
variable {src : Source} {root n : Node} {accesses : List Access}

/-- Inside all transparent nodes of a chain stands its root, or else the last access. -/
theorem Spine.unwrap (h : Spine src root accesses n) :
    (accesses = [] ∧ root.kind ∈ ["identifier", "this", "super"] ∧ unwrap n = root) ∨
      (accesses ≠ [] ∧ root.kind ∈ ["identifier", "this", "super"] ∧ (unwrap n).kind ∈ accessKinds) := by
  induction h with
  | root hkind =>
    have hopen : ∀ kind ∈ ["identifier", "this", "super"], kind ∉ transparentKinds := by decide
    exact .inl ⟨rfl, hkind, unwrap_of_not_wraps fun _ hw => hopen _ hkind hw.1⟩
  | @member accesses object property n name _ hkind _ _ _ ih =>
    have haccess : n.kind ∈ accessKinds := hkind ▸ List.mem_cons_self
    rw [unwrap_of_access haccess]
    exact .inr ⟨by simp, ih.elim (·.2.1) (·.2.1), haccess⟩
  | @index accesses object n _ hkind _ ih =>
    have haccess : n.kind ∈ accessKinds := hkind ▸ List.mem_cons_of_mem _ List.mem_cons_self
    rw [unwrap_of_access haccess]
    exact .inr ⟨by simp, ih.elim (·.2.1) (·.2.1), haccess⟩
  | wrapped _ hw ih =>
    rw [unwrap_of_wraps hw]
    exact ih

/-- The callee that a chain of accesses from a root is. -/
def spineCallee (src : Source) (root : Node) (accesses : List Access) : Callee :=
  if accesses ≠ [] then
    { kind := .member, root := some (if root.kind = "identifier" then src.textOf root else root.kind),
      members := accesses.map Access.label }
  else if root.kind = "identifier" then { kind := .name, root := some (src.textOf root) }
  else if root.kind = "super" then { kind := .super, root := some "super" }
  else { kind := .other }

theorem Spine.calleeOf (h : Spine src root accesses n) : calleeOf src n = spineCallee src root accesses := by
  unfold CorpusShape.calleeOf spineCallee
  dsimp only
  rcases h.unwrap with ⟨rfl, hkind, hroot⟩ | ⟨hsome, hkind, haccess⟩
  · rw [hroot, if_neg (not_not_intro rfl)]
    generalize root.kind = kind at hkind ⊢
    fin_cases hkind <;> rfl
  · rw [memberChain_unwrap, h.memberChain, if_pos hsome]
    dsimp only
    generalize (CorpusShape.unwrap n).kind = last at haccess ⊢
    generalize root.kind = kind at hkind ⊢
    fin_cases haccess <;> fin_cases hkind <;> rfl

end Spines

/-- Transparent nodes, put around a callee and around the objects that it accesses, none or any number of them, leave
the form, the left-most name and the members of the call site as they are; there is one unless the call is a tagged
template. A chain of accesses from a name, `this` or `super` is read as this root and its accesses in the order of the
text, an index as `[]`, whatever transparent nodes stand between them, and this is what the call site of a call of the
chain holds. -/
theorem wrappers_keep_callee :
    (∀ (src : Source) (n : Node), RewrappedCall src src n n) ∧
    (∀ (s₁ s₂ : Source) (n m : Node), RewrappedCall s₁ s₂ n m → ∀ scope scope' owner owner',
      if (n.child? "arguments").map (·.kind) = some "template_string" then
        callSite? s₁ scope owner n = none ∧ callSite? s₂ scope' owner' m = none
      else ∃ c d, callSite? s₁ scope owner n = some c ∧ callSite? s₂ scope' owner' m = some d ∧
        c.kind = d.kind ∧ c.root = d.root ∧ c.members = d.members) ∧
    ∀ (src : Source) (root n : Node) (accesses : List Access), Spine src root accesses n →
      memberChain src n = (some root, accesses.map Access.label) ∧
      ∀ call : Node, call.child? "function" = some n →
        (call.child? "arguments").map (·.kind) ≠ some "template_string" → ∀ scope owner,
        ∃ c, callSite? src scope owner call = some c ∧ c.callee = spineCallee src root accesses := by
  refine ⟨RewrappedCall.refl, ?_, ?_⟩
  · intro s₁ s₂ n m h scope scope' owner owner'
    split
    · rename_i htagged
      exact ⟨callSite?_of_tagged htagged scope owner, callSite?_of_tagged (h.arguments.trans htagged) scope' owner'⟩
    · rename_i hcall
      obtain ⟨c, hc, hcallee⟩ := exists_callSite? s₁ hcall scope owner
      obtain ⟨d, hd, hcallee'⟩ := exists_callSite? s₂ (h.arguments ▸ hcall) scope' owner'
      have hsame : c.callee = d.callee := by rw [hcallee, hcallee', h.calleeAt]
      exact ⟨c, d, hc, hd, congrArg Callee.kind hsame, congrArg Callee.root hsame, congrArg Callee.members hsame⟩
  · intro src root n accesses h
    refine ⟨h.memberChain, fun call hfunction hcall scope owner => ?_⟩
    obtain ⟨c, hc, hcallee⟩ := exists_callSite? src hcall scope owner
    refine ⟨c, hc, ?_⟩
    rw [hcallee, calleeAt, hfunction]
    exact h.calleeOf

section Trees

def indexed (object : Node) : Node :=
  .branch "subscript_expression" object.start (object.stop + 3) [object.inField "object",
    .token "[" object.stop (object.stop + 1),
    (Node.leaf "identifier" (object.stop + 1) (object.stop + 2)).inField "index",
    .token "]" (object.stop + 2) (object.stop + 3)]

def parenthesized (inner : Node) : Node :=
  .branch "parenthesized_expression" (inner.start - 1) (inner.stop + 1)
    [.token "(" (inner.start - 1) inner.start, inner, .token ")" inner.stop (inner.stop + 1)]

/-- The tree of `a.b[i]()`. -/
def plainChain : Node := Corpus.callOf (indexed (Corpus.memberOf (.leaf "identifier" 0 1)))

/-- The node of `a!` in `((a!).b)[i]()`. -/
def markedName : Node := .branch "non_null_expression" 2 4 [.leaf "identifier" 2 3, .token "!" 3 4]

/-- The callee of `((a!).b)[i]()`. -/
def wrappedCallee : Node := indexed (parenthesized (Corpus.memberOf (parenthesized markedName)))

theorem wrappers_keep_callee_wrappedCallee :
    let s₁ : Source := .ofString "a.b[i]()"
    let s₂ : Source := .ofString "((a!).b)[i]()"
    RewrappedCall s₁ s₂ plainChain (Corpus.callOf wrappedCallee) ∧
      Spine s₂ (.leaf "identifier" 2 3) [.member "b", .index] (wrappedCallee.inField "function") ∧
      memberChain s₂ (wrappedCallee.inField "function") = (some (.leaf "identifier" 2 3), ["b", "[]"]) ∧
      ∃ c d, callSite? s₁ [] none plainChain = some c ∧ callSite? s₂ [] none (Corpus.callOf wrappedCallee) = some d ∧
        c.callee = ⟨.member, some "a", ["b", "[]"]⟩ ∧ d.callee = ⟨.member, some "a", ["b", "[]"]⟩ := by
  intro s₁ s₂
  have hname : Rewrapped s₁ s₂ ((Node.leaf "identifier" 0 1).inField "object") (.leaf "identifier" 2 3) :=
    .bare (bare_of_kind (by decide) (by decide)) (bare_of_kind (by decide) (by decide))
      ⟨rfl, fun _ => by decide, fun h => absurd h (by decide)⟩
  have hcall : RewrappedCall s₁ s₂ plainChain (Corpus.callOf wrappedCallee) := by
    refine ⟨rfl, .some ?_⟩
    refine .access (by decide) ⟨rfl, fun h => absurd h (by decide), fun h => absurd h (by decide)⟩ rfl rfl ?_
    apply Rewrapped.inserted ⟨by decide, rfl⟩
    refine .access (by decide) ⟨rfl, fun h => absurd h (by decide), fun _ => by decide⟩ rfl rfl ?_
    exact .inserted ⟨by decide, rfl⟩ (.inserted ⟨by decide, rfl⟩ hname)
  have hobject : Spine s₂ (.leaf "identifier" 2 3) [] ((parenthesized markedName).inField "object") :=
    .wrapped (.wrapped (.root (by decide)) ⟨by decide, rfl⟩) ⟨by decide, rfl⟩
  have hmember : Spine s₂ (.leaf "identifier" 2 3) [.member "b"] (Corpus.memberOf (parenthesized markedName)) :=
    hobject.member rfl rfl rfl (by decide)
  have hspine : Spine s₂ (.leaf "identifier" 2 3) [.member "b", .index] (wrappedCallee.inField "function") :=
    (hmember.wrapped (w := (parenthesized _).inField "object") ⟨by decide, rfl⟩).index rfl rfl
  obtain ⟨-, hrewrapped, hspines⟩ := wrappers_keep_callee
  obtain ⟨c, d, hc, hd, hkind, hroot, hmembers⟩ := hrewrapped s₁ s₂ _ _ hcall [] [] none none
  obtain ⟨hchain, hsites⟩ := hspines s₂ _ _ _ hspine
  obtain ⟨d', hd', hcallee⟩ := hsites (Corpus.callOf wrappedCallee) rfl (by decide) [] none
  obtain rfl : d' = d := Option.some.inj (hd'.symm.trans hd)
  have hsame : c.callee = d'.callee := by rw [CallSite.callee, hkind, hroot, hmembers]; rfl
  have hform : d'.callee = ⟨.member, some "a", ["b", "[]"]⟩ := hcallee.trans (by decide)
  exact ⟨hcall, hspine, hchain, c, d', hc, hd, hsame.trans hform, hform⟩

end Trees

end CorpusShape
