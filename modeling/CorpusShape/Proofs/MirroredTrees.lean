import CorpusShape.Proofs.CallPlaces
import Mathlib.Data.List.Forall2

/-!
# What is read off trees that mirror each other

Names are read off a tree by looking into patterns, declarations, member accesses and transparent expressions, and never
into a function or a block. A relation of trees mirrors what is read if related nodes are of one kind and hold one
field, if their children apart from comments are related unless they are functions or blocks, and if the texts that name
something are the same. The names that patterns and declarations bind, the callee that an expression is, and what is
bound by imports are then the same on both sides.
-/
namespace CorpusShape

open Syntax

/-- The two nodes are of one kind and hold one field. -/
structure SameHead (a b : Node) : Prop where
  kind : b.kind = a.kind
  named : b.named = a.named
  field : b.field = a.field

section Lists
variable {α β γ δ : Type} {R S : α → β → Prop} {l : List α} {m : List β}

theorem optionRel_imp {x : Option α} {y : Option β} (h : Option.Rel R x y) (himp : ∀ a b, R a b → S a b) :
    Option.Rel S x y := by
  cases h with
  | none => exact .none
  | some hab => exact .some (himp _ _ hab)

theorem optionRel_orElse {x x' : Option α} {y y' : Option β} (h : Option.Rel R x y) (h' : Option.Rel R x' y') :
    Option.Rel R (x <|> x') (y <|> y') := by
  cases h with
  | none => exact h'
  | some hab => exact .some hab

theorem optionRel_map {f : α → γ} {g : β → γ} {x : Option α} {y : Option β} (h : Option.Rel (fun a b => f a = g b) x y) :
    x.map f = y.map g := by
  cases h with
  | none => rfl
  | some hab => exact congrArg some hab

theorem optionRel_of_map {f : α → γ} {g : β → γ} {x : Option α} {y : Option β} (h : x.map f = y.map g) :
    Option.Rel (fun a b => f a = g b) x y := by
  cases x with
  | none =>
    cases y with
    | none => exact .none
    | some b => cases h
  | some a =>
    cases y with
    | none => cases h
    | some b => exact .some (Option.some.inj h)

theorem optionRel_bind {f : α → Option γ} {g : β → Option γ} {x : Option α} {y : Option β} (h : Option.Rel R x y)
    (hfg : ∀ a b, R a b → f a = g b) : x.bind f = y.bind g := by
  cases h with
  | none => rfl
  | some hab => exact hfg _ _ hab

theorem optionRel_elim {P : γ → δ → Prop} {x : Option α} {y : Option β} {z : γ} {w : δ} {f : α → γ} {g : β → δ}
    (h : Option.Rel R x y) (hnone : P z w) (hsome : ∀ a ∈ x, ∀ b, R a b → P (f a) (g b)) :
    P (x.elim z f) (y.elim w g) := by
  cases h with
  | none => exact hnone
  | some hab => exact hsome _ rfl _ hab

theorem forall₂_imp_of_mem (h : List.Forall₂ R l m) (himp : ∀ a ∈ l, ∀ b, R a b → S a b) : List.Forall₂ S l m :=
  ((List.forall₂_and_left _ _).mpr ⟨fun _ ha => ha, h⟩).imp fun a b hab => himp a hab.1 b hab.2

theorem forall₂_and (h : List.Forall₂ R l m) (h' : List.Forall₂ S l m) :
    List.Forall₂ (fun a b => R a b ∧ S a b) l m := by
  induction h with
  | nil => exact .nil
  | cons hr _ ih =>
    cases h' with
    | cons hs hrest => exact .cons ⟨hr, hs⟩ (ih hrest)

theorem exists_mem_of_forall₂ (h : List.Forall₂ R l m) {a : α} (ha : a ∈ l) : ∃ b ∈ m, R a b := by
  induction h with
  | nil => cases ha
  | cons hab _ ih =>
    rcases List.mem_cons.mp ha with rfl | ha
    · exact ⟨_, List.mem_cons_self, hab⟩
    · obtain ⟨b, hb, hr⟩ := ih ha
      exact ⟨b, List.mem_cons_of_mem _ hb, hr⟩

theorem forall₂_filter {p : α → Bool} {q : β → Bool} (hpq : ∀ a b, R a b → q b = p a) (h : List.Forall₂ R l m) :
    List.Forall₂ R (l.filter p) (m.filter q) :=
  List.rel_filter (fun a b hab => Bool.eq_iff_iff.mp (hpq a b hab).symm) h

/-- The first matches are related, and the one on the left is a match. -/
theorem forall₂_find? {p : α → Bool} {q : β → Bool} (hpq : ∀ a b, R a b → q b = p a) (h : List.Forall₂ R l m) :
    Option.Rel (fun a b => R a b ∧ p a = true) (l.find? p) (m.find? q) := by
  induction h with
  | nil => exact .none
  | @cons a b l m hab _ ih =>
    rw [List.find?_cons, List.find?_cons, hpq a b hab]
    cases hp : p a with
    | true => exact .some ⟨hab, hp⟩
    | false => exact ih

theorem forall₂_head? (h : List.Forall₂ R l m) : Option.Rel R l.head? m.head? := by
  cases h with
  | nil => exact .none
  | cons hab _ => exact .some hab

theorem forall₂_toList {x : Option α} {y : Option β} (h : Option.Rel R x y) : List.Forall₂ R x.toList y.toList := by
  cases h with
  | none => exact .nil
  | some h => exact .cons h .nil

theorem flatMap_eq_of_forall₂ {f : α → List γ} {g : β → List γ} (h : List.Forall₂ R l m)
    (hfg : ∀ a ∈ l, ∀ b, R a b → f a = g b) : l.flatMap f = m.flatMap g := by
  induction h with
  | nil => rfl
  | @cons a b l m hab _ ih =>
    rw [List.flatMap_cons, List.flatMap_cons, hfg a List.mem_cons_self b hab,
      ih fun c hc => hfg c (List.mem_cons_of_mem _ hc)]

theorem any_eq_of_forall₂ {p : α → Bool} {q : β → Bool} (h : List.Forall₂ R l m) (hpq : ∀ a b, R a b → p a = q b) :
    l.any p = m.any q := by
  induction h with
  | nil => rfl
  | @cons a b l m hab _ ih => rw [List.any_cons, List.any_cons, hpq a b hab, ih]

variable {q : α → Bool}

theorem foldl_without {f : γ → α → γ} (hf : ∀ z x, q x = true → f z x = z) (l : List α) (z : γ) :
    (l.filter (!q ·)).foldl f z = l.foldl f z := by
  induction l generalizing z with
  | nil => rfl
  | cons x l ih =>
    cases hx : q x with
    | true => simpa [hx, hf z x hx] using ih z
    | false => simp [hx, ih]

theorem flatMap_without {f : α → List γ} (hf : ∀ x, q x = true → f x = []) (l : List α) :
    (l.filter (!q ·)).flatMap f = l.flatMap f := by
  induction l with
  | nil => rfl
  | cons x l ih =>
    cases hx : q x with
    | true => simpa [hx, hf x hx] using ih
    | false => simp [hx, ih]

theorem filterMap_without {f : α → Option γ} (hf : ∀ x, q x = true → f x = none) (l : List α) :
    (l.filter (!q ·)).filterMap f = l.filterMap f := by
  rw [List.filterMap_eq_flatMap_toList, List.filterMap_eq_flatMap_toList]
  exact flatMap_without (fun x hx => by rw [hf x hx]; rfl) l

end Lists

section Children
variable {R : Node → Node → Prop} {a b : Node}

/-- The named children apart from the comments. -/
def Syntax.Node.spoken (n : Node) : List Node := n.namedChildren.filter fun c => !(c.kind == "comment")

theorem filter_spoken (n : Node) {kind : String} (hkind : kind ≠ "comment") :
    n.spoken.filter (·.kind == kind) = n.namedChildren.filter (·.kind == kind) := by
  rw [Node.spoken, List.filter_filter]
  refine List.filter_congr fun c _ => ?_
  by_cases hc : c.kind = kind
  · simp [hc, hkind]
  · simp [hc]

theorem namedChild?_eq_spoken (n : Node) {kind : String} (hkind : kind ≠ "comment") :
    n.namedChild? kind = n.spoken.find? (·.kind == kind) := by
  rw [Node.namedChild?, ← List.head?_filter, ← List.head?_filter, filter_spoken n hkind]

theorem lastChild?_eq_spoken (n : Node) {kind : String} (hkind : kind ≠ "comment") :
    lastChild? n kind = n.spoken.reverse.find? (·.kind == kind) := by
  rw [lastChild?, ← List.head?_filter, ← List.head?_filter, List.filter_reverse, List.filter_reverse,
    filter_spoken n hkind]

theorem rel_child? (hhead : ∀ c d, R c d → SameHead c d) (h : List.Forall₂ R a.children b.children) (name : String) :
    Option.Rel (fun c d => R c d ∧ c.field = some name) (a.child? name) (b.child? name) := by
  have hfind := forall₂_find? (p := fun c => c.field == some name) (q := fun d => d.field == some name)
    (fun c d hcd => by rw [(hhead c d hcd).field]) h
  exact optionRel_imp hfind fun c d hcd => ⟨hcd.1, beq_iff_eq.mp hcd.2⟩

theorem forall₂_namedChildren (hhead : ∀ c d, R c d → SameHead c d) (h : List.Forall₂ R a.children b.children) :
    List.Forall₂ R a.namedChildren b.namedChildren :=
  forall₂_filter (fun c d hcd => (hhead c d hcd).named) h

theorem forall₂_spoken (hhead : ∀ c d, R c d → SameHead c d) (h : List.Forall₂ R a.children b.children) :
    List.Forall₂ R a.spoken b.spoken :=
  forall₂_filter (fun c d hcd => by rw [(hhead c d hcd).kind]) (forall₂_namedChildren hhead h)

theorem rel_namedChild? (hhead : ∀ c d, R c d → SameHead c d) (h : List.Forall₂ R a.spoken b.spoken) {kind : String}
    (hkind : kind ≠ "comment") :
    Option.Rel (fun c d => R c d ∧ c.kind = kind) (a.namedChild? kind) (b.namedChild? kind) := by
  have hfind := forall₂_find? (p := fun c => c.kind == kind) (q := fun d => d.kind == kind)
    (fun c d hcd => by rw [(hhead c d hcd).kind]) h
  rw [namedChild?_eq_spoken a hkind, namedChild?_eq_spoken b hkind]
  exact optionRel_imp hfind fun c d hcd => ⟨hcd.1, beq_iff_eq.mp hcd.2⟩

theorem rel_lastChild? (hhead : ∀ c d, R c d → SameHead c d) (h : List.Forall₂ R a.spoken b.spoken) {kind : String}
    (hkind : kind ≠ "comment") :
    Option.Rel (fun c d => R c d ∧ c.kind = kind) (lastChild? a kind) (lastChild? b kind) := by
  have hfind := forall₂_find? (p := fun c => c.kind == kind) (q := fun d => d.kind == kind)
    (fun c d hcd => by rw [(hhead c d hcd).kind]) (List.forall₂_reverse_iff.mpr h)
  rw [lastChild?_eq_spoken a hkind, lastChild?_eq_spoken b hkind]
  exact optionRel_imp hfind fun c d hcd => ⟨hcd.1, beq_iff_eq.mp hcd.2⟩

end Children

section Equations

theorem unwrapFirst_eq (self : Node) (ns : List Node) :
    unwrapFirst self ns = (ns.filter (·.named)).head?.elim self unwrap := by
  induction ns with
  | nil => rfl
  | cons n rest ih =>
    rw [unwrapFirst, ih]
    by_cases hn : n.named
    · simp [hn]
    · simp [hn]

theorem unwrap_eq (n : Node) :
    unwrap n = if transparentKinds.contains n.kind then n.namedChildren.head?.elim n unwrap else n := by
  have hfirst : unwrapFirst n n.children = n.namedChildren.head?.elim n unwrap := unwrapFirst_eq n n.children
  rw [← hfirst]
  cases n
  rw [unwrap]

theorem firstChain_eq (src : Source) (self : Node) (ns : List Node) :
    firstChain src self ns = (ns.filter (·.named)).head?.elim (some self, []) (memberChain src) := by
  induction ns with
  | nil => rfl
  | cons n rest ih =>
    rw [firstChain, ih]
    by_cases hn : n.named
    · simp [hn]
    · simp [hn]

theorem objectChain_eq (src : Source) (ns : List Node) :
    objectChain src ns = (ns.find? fun c => c.field == some "object").elim (none, []) (memberChain src) := by
  induction ns with
  | nil => rfl
  | cons n rest ih =>
    rw [objectChain, ih, List.find?_cons]
    cases hn : n.field == some "object" with
    | true => rfl
    | false => rfl

theorem memberChain_eq (src : Source) (n : Node) :
    memberChain src n =
      if transparentKinds.contains n.kind then n.namedChildren.head?.elim (some n, []) (memberChain src)
      else if n.kind == "member_expression" then
        let chain := (n.child? "object").elim (none, []) (memberChain src)
        (chain.1, chain.2 ++ [src.textOf? (n.child? "property")])
      else if n.kind == "subscript_expression" then
        let chain := (n.child? "object").elim (none, []) (memberChain src)
        (chain.1, chain.2 ++ ["[]"])
      else (some n, []) := by
  have hfirst : firstChain src n n.children = n.namedChildren.head?.elim (some n, []) (memberChain src) :=
    firstChain_eq src n n.children
  have hobject : objectChain src n.children = (n.child? "object").elim (none, []) (memberChain src) :=
    objectChain_eq src n.children
  rw [← hfirst, ← hobject]
  cases n
  rw [memberChain]

end Equations

/-- Kinds of nodes into which no reading of names looks. -/
def sealedKinds : List String := "statement_block" :: functionKinds

/-- Related trees, each over its own text, give the same names. -/
structure Mirrors (s₁ s₂ : Source) (R : Node → Node → Prop) : Prop where
  head {a b : Node} : R a b → SameHead a b
  child {a b : Node} : R a b → a.kind ∉ sealedKinds → ∀ name, Option.Rel R (a.child? name) (b.child? name)
  spoken {a b : Node} : R a b → a.kind ∉ sealedKinds → List.Forall₂ R a.spoken b.spoken
  first {a b : Node} : R a b → a.kind ∈ "ambient_declaration" :: transparentKinds →
    Option.Rel R a.namedChildren.head? b.namedChildren.head?
  name {a b : Node} : R a b → a.kind ∈ nameKinds → s₁.textOf a = s₂.textOf b
  declared {a b : Node} : R a b → a.kind ∈ namedDeclarationKinds →
    (a.child? "name").map s₁.textOf = (b.child? "name").map s₂.textOf
  property {a b : Node} : R a b → a.kind = "member_expression" →
    s₁.textOf? (a.child? "property") = s₂.textOf? (b.child? "property")

namespace Mirrors
variable {s₁ s₂ : Source} {R : Node → Node → Prop} {a b : Node}

/-- It is enough that all children are related. -/
theorem of_children (hhead : ∀ {a b : Node}, R a b → SameHead a b)
    (hchildren : ∀ {a b : Node}, R a b → a.kind ∉ sealedKinds → List.Forall₂ R a.children b.children)
    (hname : ∀ {a b : Node}, R a b → a.kind ∈ nameKinds → s₁.textOf a = s₂.textOf b)
    (hdeclared : ∀ {a b : Node}, R a b → a.kind ∈ namedDeclarationKinds →
      (a.child? "name").map s₁.textOf = (b.child? "name").map s₂.textOf)
    (hproperty : ∀ {a b : Node}, R a b → a.kind = "member_expression" →
      s₁.textOf? (a.child? "property") = s₂.textOf? (b.child? "property")) : Mirrors s₁ s₂ R where
  head := hhead
  child h hkind name :=
    optionRel_imp (CorpusShape.rel_child? (fun _ _ => hhead) (hchildren h hkind) name) fun _ _ hcd => hcd.1
  spoken h hkind := forall₂_spoken (fun _ _ => hhead) (hchildren h hkind)
  first h hkind := by
    have hopen : ∀ kind ∈ "ambient_declaration" :: transparentKinds, kind ∉ sealedKinds := by decide
    exact forall₂_head? (forall₂_namedChildren (fun _ _ => hhead) (hchildren h (hopen _ hkind)))
  name := hname
  declared := hdeclared
  property := hproperty

theorem patternNames_of_sealed (src : Source) {n : Node} (h : n.kind ∈ sealedKinds) : patternNames src n = [] := by
  rw [patternNames_eq, patternParts]
  generalize n.kind = kind at h ⊢
  fin_cases h <;> rfl

theorem patternNames_of_comment (src : Source) (n : Node) (h : (n.kind == "comment") = true) :
    CorpusShape.patternNames src n = [] := by
  rw [patternNames_eq, CorpusShape.patternParts, beq_iff_eq.mp h]
  rfl

theorem patternParts (hR : Mirrors s₁ s₂ R) (h : R a b) (hkind : a.kind ∉ sealedKinds) :
    List.Forall₂ R ((patternParts a).filter fun c => !(c.kind == "comment"))
      ((patternParts b).filter fun d => !(d.kind == "comment")) := by
  have hchild : ∀ name, List.Forall₂ R ((a.child? name).toList.filter fun c => !(c.kind == "comment"))
      ((b.child? name).toList.filter fun d => !(d.kind == "comment")) := fun name =>
    forall₂_filter (fun c d hcd => by rw [(hR.head hcd).kind]) (forall₂_toList (hR.child h hkind name))
  unfold CorpusShape.patternParts
  rw [(hR.head h).kind]
  split
  · exact hchild "pattern"
  split
  · exact hchild "value"
  split
  · exact hchild "left"
  split
  · exact hR.spoken h hkind
  · exact .nil

theorem patternNames (hR : Mirrors s₁ s₂ R) (h : R a b) : patternNames s₁ a = patternNames s₂ b := by
  induction a using Node.inductionOn generalizing b with
  | h a ih =>
    by_cases hkind : a.kind ∈ sealedKinds
    · rw [patternNames_of_sealed s₁ hkind, patternNames_of_sealed s₂ ((hR.head h).kind ▸ hkind)]
    · rw [patternNames_eq, patternNames_eq s₂, (hR.head h).kind]
      split
      · rename_i hname
        rw [hR.name h (List.contains_iff_mem.mp hname)]
      · rw [← flatMap_without (patternNames_of_comment s₁), ← flatMap_without (patternNames_of_comment s₂)]
        exact flatMap_eq_of_forall₂ (hR.patternParts h hkind) fun c hc d hcd =>
          ih c (mem_patternParts_iff.mp (List.mem_of_mem_filter hc)).mem_children hcd

theorem patternNames? (hR : Mirrors s₁ s₂ R) {x y : Option Node} (h : Option.Rel R x y) :
    patternNames? s₁ x = patternNames? s₂ y := by
  cases h with
  | none => rfl
  | some h => exact hR.patternNames h

theorem declaratorNames (hR : Mirrors s₁ s₂ R) (h : R a b) (hkind : a.kind ∉ sealedKinds) :
    declaratorNames s₁ a.namedChildren = declaratorNames s₂ b.namedChildren := by
  have hdeclarators := forall₂_filter (p := fun c => c.kind == "variable_declarator")
    (q := fun d => d.kind == "variable_declarator") (fun c d hcd => by rw [(hR.head hcd).kind]) (hR.spoken h hkind)
  rw [filter_spoken a (by decide), filter_spoken b (by decide)] at hdeclarators
  refine flatMap_eq_of_forall₂ hdeclarators fun c hc d hcd => hR.patternNames? (hR.child hcd ?_ "name")
  rw [beq_iff_eq.mp (List.mem_filter.mp hc).2]
  decide

theorem declaredNames (hR : Mirrors s₁ s₂ R) (h : R a b) : declaredNames s₁ a = declaredNames s₂ b := by
  induction a using Node.inductionOn generalizing b with
  | h a ih =>
    rw [declaredNames_eq, declaredNames_eq s₂, (hR.head h).kind]
    split
    · rename_i hkind
      have hfirst := hR.first h (beq_iff_eq.mp hkind ▸ List.mem_cons_self)
      exact optionRel_elim (P := Eq) hfirst rfl fun c hc d hcd =>
        ih c (List.mem_of_mem_filter (List.mem_of_mem_head? hc)) hcd
    split
    · rename_i hkind
      rw [hR.declared h (List.contains_iff_mem.mp hkind)]
    split
    · rename_i hkind
      have hnone : ∀ kind ∈ variableKinds, kind ∉ sealedKinds := by decide
      exact hR.declaratorNames h (hnone _ (List.contains_iff_mem.mp hkind))
    · rfl

theorem first_of_transparent (hR : Mirrors s₁ s₂ R) (h : R a b) (hkind : transparentKinds.contains a.kind = true) :
    Option.Rel R a.namedChildren.head? b.namedChildren.head? :=
  hR.first h (List.mem_cons_of_mem _ (List.contains_iff_mem.mp hkind))

theorem unwrap (hR : Mirrors s₁ s₂ R) (h : R a b) : R (unwrap a) (unwrap b) := by
  induction a using Node.inductionOn generalizing b with
  | h a ih =>
    rw [unwrap_eq, unwrap_eq b, (hR.head h).kind]
    split
    · rename_i hkind
      refine optionRel_elim (hR.first_of_transparent h hkind) h ?_
      exact fun c hc d hcd => ih c (List.mem_of_mem_filter (List.mem_of_mem_head? hc)) hcd
    · exact h

/-- The left-most expressions of the two chains are related, and the members are the same. -/
def SameChain (R : Node → Node → Prop) (c d : Option Node × List String) : Prop :=
  Option.Rel R c.1 d.1 ∧ c.2 = d.2

theorem memberChain (hR : Mirrors s₁ s₂ R) (h : R a b) : SameChain R (memberChain s₁ a) (memberChain s₂ b) := by
  induction a using Node.inductionOn generalizing b with
  | h a ih =>
    have hobject : a.kind ∉ sealedKinds → SameChain R ((a.child? "object").elim (none, []) (CorpusShape.memberChain s₁))
        ((b.child? "object").elim (none, []) (CorpusShape.memberChain s₂)) := fun hkind =>
      optionRel_elim (hR.child h hkind "object") ⟨.none, rfl⟩ fun c hc d hcd =>
        ih c (List.mem_of_find?_eq_some hc) hcd
    rw [memberChain_eq, memberChain_eq s₂, (hR.head h).kind]
    split
    · rename_i hkind
      refine optionRel_elim (hR.first_of_transparent h hkind) ⟨.some h, rfl⟩ ?_
      exact fun c hc d hcd => ih c (List.mem_of_mem_filter (List.mem_of_mem_head? hc)) hcd
    split
    · rename_i hkind
      have hmember := beq_iff_eq.mp hkind
      have hopen : a.kind ∉ sealedKinds := by
        rw [hmember]
        decide
      refine ⟨(hobject hopen).1, ?_⟩
      dsimp only
      rw [(hobject hopen).2, hR.property h hmember]
    split
    · rename_i hkind
      have hopen : a.kind ∉ sealedKinds := by
        rw [beq_iff_eq.mp hkind]
        decide
      refine ⟨(hobject hopen).1, ?_⟩
      dsimp only
      rw [(hobject hopen).2]
    · exact ⟨.some h, rfl⟩

/-- The two nodes are of one kind, and the same name if they are names. -/
def SameName (s₁ s₂ : Source) (a b : Node) : Prop :=
  b.kind = a.kind ∧ (a.kind = "identifier" → s₁.textOf a = s₂.textOf b)

/-- A callee is read off what stands inside the transparent nodes, and off its chain. -/
theorem calleeOf_congr (hinner : SameName s₁ s₂ (CorpusShape.unwrap a) (CorpusShape.unwrap b))
    (hchain : SameChain (SameName s₁ s₂) (CorpusShape.memberChain s₁ (CorpusShape.unwrap a))
      (CorpusShape.memberChain s₂ (CorpusShape.unwrap b))) : calleeOf s₁ a = calleeOf s₂ b := by
  unfold CorpusShape.calleeOf
  dsimp only
  rw [hinner.1]
  split
  · rename_i hkind
    rw [hinner.2 (beq_iff_eq.mp hkind)]
  split
  · rfl
  split
  · generalize CorpusShape.memberChain s₁ (CorpusShape.unwrap a) = chain at hchain ⊢
    generalize CorpusShape.memberChain s₂ (CorpusShape.unwrap b) = chain' at hchain ⊢
    obtain ⟨root, members⟩ := chain
    obtain ⟨root', members'⟩ := chain'
    obtain ⟨hroot, rfl⟩ := hchain
    cases hroot with
    | none => rfl
    | some hroot =>
      dsimp only
      rw [hroot.1]
      split
      · rename_i hkind
        rw [hroot.2 (beq_iff_eq.mp hkind)]
      · rfl
  · rfl

theorem sameName (hR : Mirrors s₁ s₂ R) (h : R a b) : SameName s₁ s₂ a b :=
  ⟨(hR.head h).kind, fun hkind => hR.name h (hkind ▸ by decide)⟩

/-- Related expressions are the same callee. -/
theorem calleeOf (hR : Mirrors s₁ s₂ R) (h : R a b) : calleeOf s₁ a = calleeOf s₂ b := by
  have hinner := hR.unwrap h
  have hchain := hR.memberChain hinner
  exact calleeOf_congr (hR.sameName hinner) ⟨optionRel_imp hchain.1 fun _ _ => hR.sameName, hchain.2⟩

theorem isCall (hR : Mirrors s₁ s₂ R) (h : R a b) : isCall a = isCall b := by
  unfold CorpusShape.isCall
  rw [(hR.head h).kind]
  by_cases hkind : a.kind = "call_expression"
  · have hopen : a.kind ∉ sealedKinds := by
      rw [hkind]
      decide
    have harguments := hR.child h hopen "arguments"
    generalize a.child? "arguments" = x at harguments ⊢
    generalize b.child? "arguments" = y at harguments ⊢
    cases harguments with
    | none => rfl
    | some hxy => rw [Option.any_some, Option.any_some, (hR.head hxy).kind]
  · rw [beq_false_of_ne hkind, Bool.false_and, Bool.false_and]

theorem calleeAt (hR : Mirrors s₁ s₂ R) (h : R a b) (hkind : a.kind ∉ sealedKinds) : calleeAt s₁ a = calleeAt s₂ b := by
  have hfunction := hR.child h hkind "function"
  unfold CorpusShape.calleeAt
  generalize a.child? "function" = x at hfunction ⊢
  generalize b.child? "function" = y at hfunction ⊢
  cases hfunction with
  | none => rfl
  | some hxy => exact hR.calleeOf hxy

/-- At related places the same calls stand, each with the scope of its place. -/
theorem call? (hR : Mirrors s₁ s₂ R) {p q : Place} (h : R p.node q.node) (f₁ f₂ : Frame) :
    Option.Rel (fun x y => x.callee = y.callee ∧ x.scope = some (scopeInside s₁ f₁ p.around) ∧
      y.scope = some (scopeInside s₂ f₂ q.around)) (p.call? s₁ f₁) (q.call? s₂ f₂) := by
  by_cases hcall : CorpusShape.isCall p.node = true
  · have hopen : p.node.kind ∉ sealedKinds := by
      rw [beq_iff_eq.mp (Bool.and_eq_true_iff.mp hcall).1]
      decide
    rw [Place.call?_of_isCall s₁ f₁ hcall, Place.call?_of_isCall s₂ f₂ (hR.isCall h ▸ hcall)]
    exact .some ⟨hR.calleeAt h hopen, rfl, rfl⟩
  · rw [Place.call?_of_not_isCall s₁ f₁ hcall, Place.call?_of_not_isCall s₂ f₂ (hR.isCall h ▸ hcall)]
    exact .none

end Mirrors

section Hoisting
variable {s₁ s₂ : Source} {R : Node → Node → Prop} {p : Node → Bool}

theorem hoistPending_skip (hskip : ∀ src n, p n = false → hoistStep src n = ([], [])) (src : Source) (f : Frame)
    {ns : List Node} (hns : ∀ n ∈ ns, p n = false) (rest : List Node) :
    hoistPending src f (ns ++ rest) = hoistPending src f rest := by
  induction ns with
  | nil => rfl
  | cons n ns ih =>
    obtain ⟨hn, hns⟩ := List.forall_mem_cons.mp hns
    rw [List.cons_append, hoistPending, hskip src n hn]
    exact ih hns

/-- Hoisting from related nodes binds the same names, in the same order, if one step of it declares the same names and
leads to related nodes. Nodes with which it does nothing may stand among them. -/
theorem hoistPending_eq (hskip : ∀ src n, p n = false → hoistStep src n = ([], []))
    (hstep : ∀ a b, R a b → (hoistStep s₁ a).1 = (hoistStep s₂ b).1 ∧
      List.Forall₂ R ((hoistStep s₁ a).2.filter p) ((hoistStep s₂ b).2.filter p)) (f : Frame) {ns ms : List Node}
    (h : List.Forall₂ R (ns.filter p) (ms.filter p)) : hoistPending s₁ f ns = hoistPending s₂ f ms := by
  fun_induction hoistPending s₁ f ns generalizing ms with
  | case1 f =>
    have hms : ∀ m ∈ ms, p m = false := by
      cases hfilter : ms.filter p with
      | nil => simpa using hfilter
      | cons m rest =>
        rw [hfilter] at h
        cases h
    have hskipped := hoistPending_skip hskip s₂ f hms []
    rw [List.append_nil, hoistPending] at hskipped
    exact hskipped.symm
  | case2 f n pending ih =>
    cases hn : p n with
    | false =>
      rw [hskip s₁ n hn] at ih ⊢
      rw [List.filter_cons_of_neg (by simp [hn])] at h
      exact ih h
    | true =>
      rw [List.filter_cons_of_pos hn] at h
      obtain ⟨m, rest, hnm, hpending, hms⟩ := List.forall₂_cons_left_iff.mp h
      obtain ⟨skipped, later, rfl, hskipped, -, rfl⟩ := List.filter_eq_cons_iff.mp hms
      obtain ⟨hnames, hnext⟩ := hstep n m hnm
      rw [hoistPending_skip hskip s₂ f (by simpa using hskipped), hoistPending, ← hnames]
      refine ih ?_
      rw [List.filter_append, List.filter_append, List.filter_reverse, List.filter_reverse]
      exact List.rel_append (List.forall₂_reverse_iff.mpr hnext) hpending

end Hoisting

section Imports
variable {s₁ s₂ : Source} {Q : Node → Node → Prop} {a b : Node}

def importKinds : List String :=
  ["import_statement", "import_clause", "import_require_clause", "namespace_import", "named_imports", "import_specifier"]

/-- Related trees, each over its own text, make the same imports. -/
structure Transcribes (s₁ s₂ : Source) (Q : Node → Node → Prop) : Prop where
  head {a b : Node} : Q a b → SameHead a b
  text {a b : Node} : Q a b → a.kind ∈ ["identifier", "string"] → s₁.textOf a = s₂.textOf b
  specifier {a b : Node} : Q a b → a.kind = "import_specifier" → ∀ name ∈ ["name", "alias"],
    (a.child? name).map s₁.textOf = (b.child? name).map s₂.textOf
  source {a b : Node} : Q a b → a.kind = "import_require_clause" →
    (a.child? "source").map s₁.textOf = (b.child? "source").map s₂.textOf
  spoken {a b : Node} : Q a b → a.kind ∈ importKinds → List.Forall₂ Q a.spoken b.spoken

/-- The imports bind the same names to the same things. -/
structure SameImport (i j : Import) : Prop where
  specifier : i.specifier = j.specifier
  standard : i.standard = j.standard
  whole : i.whole = j.whole
  names : i.names = j.names
  isRequire : i.isRequire = j.isRequire

theorem SameImport.bindImport {i j : Import} (h : SameImport i j) (f : Frame) : f.bindImport i = f.bindImport j := by
  unfold Frame.bindImport
  rw [h.specifier, h.standard, h.whole, h.names]

theorem textOf?_eq_getD (src : Source) (n : Option Node) : src.textOf? n = (n.map src.textOf).getD "" := by
  cases n with
  | none => rfl
  | some n => rfl

/-- The specifiers of related nodes name the same if their names and aliases have the same texts. -/
theorem specifierNames_eq (kind : String) (hhead : ∀ c d, Q c d → SameHead c d) (h : List.Forall₂ Q a.spoken b.spoken)
    (hkind : kind ≠ "comment") (hchild : ∀ c d, Q c d → c.kind = kind → ∀ name ∈ ["name", "alias"],
      (c.child? name).map s₁.textOf = (d.child? name).map s₂.textOf) :
    specifierNames s₁ kind a = specifierNames s₂ kind b := by
  have hspecs := forall₂_filter (p := fun c => c.kind == kind) (q := fun d => d.kind == kind)
    (fun c d hcd => by rw [(hhead c d hcd).kind]) h
  rw [filter_spoken a hkind, filter_spoken b hkind] at hspecs
  refine List.rel_foldl (P := Eq) ?_ rfl (forall₂_imp_of_mem hspecs fun c hc d hcd => And.intro hcd
    (beq_iff_eq.mp (List.mem_filter.mp hc).2))
  rintro t _ rfl c d ⟨hcd, hspec⟩
  have hname := hchild c d hcd hspec "name" (by decide)
  have halias := optionRel_of_map (hchild c d hcd hspec "alias" (by decide))
  dsimp only
  rw [textOf?_eq_getD, textOf?_eq_getD, hname]
  generalize c.child? "alias" = x at halias ⊢
  generalize d.child? "alias" = y at halias ⊢
  cases halias with
  | none => rfl
  | some hxy =>
    dsimp only
    rw [hxy]

namespace Transcribes

/-- It is enough that all texts are the same and all children are related. -/
theorem of_children (hhead : ∀ {a b : Node}, Q a b → SameHead a b)
    (htext : ∀ {a b : Node}, Q a b → s₁.textOf a = s₂.textOf b)
    (hchildren : ∀ {a b : Node}, Q a b → a.kind ∈ importKinds → List.Forall₂ Q a.children b.children) :
    Transcribes s₁ s₂ Q := by
  have hchild : ∀ {a b : Node}, Q a b → a.kind ∈ importKinds → ∀ name,
      (a.child? name).map s₁.textOf = (b.child? name).map s₂.textOf := fun h hkind name =>
    optionRel_map (optionRel_imp (rel_child? (fun _ _ => hhead) (hchildren h hkind) name) fun _ _ hcd => htext hcd.1)
  refine ⟨hhead, fun h _ => htext h, fun h hkind name _ => hchild h ?_ name, fun h hkind => hchild h ?_ "source",
    fun h hkind => forall₂_spoken (fun _ _ => hhead) (hchildren h hkind)⟩
  · rw [hkind]
    decide
  · rw [hkind]
    decide

theorem text_namedChild? (hQ : Transcribes s₁ s₂ Q) (h : Q a b) (hkind : a.kind ∈ importKinds) (kind : String)
    (hname : kind ∈ ["identifier", "string"]) :
    Option.Rel (fun c d => s₁.textOf c = s₂.textOf d) (a.namedChild? kind) (b.namedChild? kind) := by
  have hcomment : ∀ kind ∈ ["identifier", "string"], kind ≠ "comment" := by decide
  have hchild := rel_namedChild? (fun _ _ => hQ.head) (hQ.spoken h hkind) (hcomment kind hname)
  exact optionRel_imp hchild fun c d hcd => hQ.text hcd.1 (hcd.2.symm ▸ hname)

theorem addImported (hQ : Transcribes s₁ s₂ Q) {i j : Import} (h : SameImport i j) (hab : Q a b) :
    SameImport (addImported s₁ i a) (addImported s₂ j b) := by
  unfold CorpusShape.addImported
  rw [(hQ.head hab).kind]
  split
  · rename_i hkind
    have hidentifier : a.kind ∈ ["identifier", "string"] := by
      rw [beq_iff_eq.mp hkind]
      decide
    exact { h with standard := congrArg some (hQ.text hab hidentifier) }
  split
  · rename_i hkind
    have hname := hQ.text_namedChild? hab (beq_iff_eq.mp hkind ▸ by decide) "identifier" (by decide)
    generalize a.namedChild? "identifier" = x at hname ⊢
    generalize b.namedChild? "identifier" = y at hname ⊢
    cases hname with
    | none => exact h
    | some hxy => exact { h with whole := congrArg some hxy }
  split
  · rename_i hkind
    have hspecs := specifierNames_eq "import_specifier" (fun _ _ => hQ.head)
      (hQ.spoken hab (beq_iff_eq.mp hkind ▸ by decide)) (by decide) fun c d hcd hspec => hQ.specifier hcd hspec
    refine { h with names := ?_ }
    dsimp only
    rw [hspecs, h.names]
  · exact h

theorem addImported_of_comment (src : Source) (i : Import) (n : Node) (h : (n.kind == "comment") = true) :
    CorpusShape.addImported src i n = i := by
  unfold CorpusShape.addImported
  rw [beq_iff_eq.mp h]
  rfl

/-- Statements whose clauses are related and whose sources have the same text make the same import. -/
theorem importOf? (hQ : Transcribes s₁ s₂ Q)
    (hclause : ∀ kind ∈ ["import_clause", "import_require_clause"],
      Option.Rel (fun c d => Q c d ∧ c.kind = kind) (lastChild? a kind) (lastChild? b kind))
    (hsource : Option.Rel (fun c d => s₁.textOf c = s₂.textOf d) (a.child? "source") (b.child? "source")) :
    Option.Rel SameImport (importOf? s₁ a) (importOf? s₂ b) := by
  have hrequired := hclause "import_require_clause" (by decide)
  have hclause := hclause "import_clause" (by decide)
  unfold CorpusShape.importOf?
  generalize lastChild? a "import_require_clause" = x at hrequired ⊢
  generalize lastChild? b "import_require_clause" = y at hrequired ⊢
  cases hrequired with
  | none =>
    generalize a.child? "source" = x at hsource ⊢
    generalize b.child? "source" = y at hsource ⊢
    cases hsource with
    | none => exact .none
    | some hfrom =>
      generalize lastChild? a "import_clause" = x at hclause ⊢
      generalize lastChild? b "import_clause" = y at hclause ⊢
      have hstart : SameImport { specifier := unquoted (s₁.textOf _), line := s₁.line a.start }
          { specifier := unquoted (s₂.textOf _), line := s₂.line b.start } :=
        ⟨congrArg unquoted hfrom, rfl, rfl, rfl, rfl⟩
      cases hclause with
      | none => exact .some hstart
      | some hxy =>
        have hparts := hQ.spoken hxy.1 (hxy.2 ▸ by decide)
        dsimp only
        rw [← foldl_without (addImported_of_comment s₁), ← foldl_without (addImported_of_comment s₂)]
        exact .some (List.rel_foldl (P := SameImport) (R := Q) (fun _ _ hi _ _ hcd => hQ.addImported hi hcd) hstart hparts)
  | some hxy =>
    dsimp only
    have hkind := hxy.2 ▸ (by decide : "import_require_clause" ∈ importKinds)
    have hfrom := optionRel_orElse (optionRel_of_map (hQ.source hxy.1 hxy.2))
      (hQ.text_namedChild? hxy.1 hkind "string" (by decide))
    have hwhole := optionRel_map (hQ.text_namedChild? hxy.1 hkind "identifier" (by decide))
    generalize (_ <|> _ : Option Node) = x at hfrom ⊢
    generalize (_ <|> _ : Option Node) = y at hfrom ⊢
    cases hfrom with
    | none => exact .none
    | some hfrom => exact .some ⟨congrArg unquoted hfrom, rfl, hwhole, rfl, rfl⟩

end Transcribes

end Imports

end CorpusShape
