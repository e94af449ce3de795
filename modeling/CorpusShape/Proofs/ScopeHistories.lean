import CorpusShape.Scope
import Mathlib.Logic.Relation

/-!
# Histories of scopes

Scopes are opened one after another, each alone or inside a scope that is open already, and names are declared in them
in between, in any order. The links to the enclosing scopes lead to older scopes only, so that a name is looked for
through finitely many of them. What is found is what was declared last in the nearest enclosing scope that ever
declared the name. Declarations elsewhere, and those further out, make no difference.
-/
namespace CorpusShape

theorem Scope.lookup_cons (f : Frame) (outer : Scope) (name : String) :
    Scope.lookup (f :: outer) name = (f.get? name).or (Scope.lookup outer name) := by
  rw [Scope.lookup]
  cases f.get? name with
  | none => rfl
  | some b => rfl

namespace ScopeForest

def parent? (t : ScopeForest) (i : Nat) : Option Nat := t.scopes[i]?.bind (·.2)

section Updates
variable (t : ScopeForest) (i j : Nat) (name : String) (b : Option Binding) (parent : Option Nat)

@[simp] theorem size_declare : (t.declare i name b).size = t.size := List.length_modify _ _ _

@[simp] theorem parent?_declare : (t.declare i name b).parent? j = t.parent? j := by
  unfold parent? declare
  rw [List.getElem?_modify]
  cases t.scopes[j]? with
  | none => rfl
  | some s =>
    by_cases hij : i = j
    · simp [hij]
    · simp [hij]

theorem frame_declare :
    (t.declare i name b).frame j =
      if i = j ∧ j < t.size then (t.frame j).put name (b.getD .declared) else t.frame j := by
  unfold frame declare size
  rw [List.getElem?_modify]
  by_cases hj : j < t.scopes.length
  · rw [List.getElem?_eq_getElem hj]
    by_cases hij : i = j
    · simp [hij, hj]
    · simp [hij]
  · rw [List.getElem?_eq_none (Nat.le_of_not_lt hj)]
    simp [hj]

@[simp] theorem size_push : (t.push parent []).size = t.size + 1 := List.length_append

theorem parent?_push : (t.push parent []).parent? j = if j = t.size then parent else t.parent? j := by
  unfold parent? push size
  rw [List.getElem?_append]
  by_cases hlt : j < t.scopes.length
  · simp [hlt, Nat.ne_of_lt hlt]
  · by_cases heq : j = t.scopes.length
    · simp [heq]
    · have hfar : t.scopes.length + 1 ≤ j := by omega
      have hnone : [(([] : Frame), parent)][j - t.scopes.length]? = none :=
        List.getElem?_eq_none (by rw [List.length_singleton]; omega)
      rw [if_neg hlt, if_neg heq, hnone, List.getElem?_eq_none (by omega)]

/-- A scope without bindings looks from outside like a scope that is not there. -/
@[simp] theorem frame_push : (t.push parent []).frame j = t.frame j := by
  unfold frame push
  rw [List.getElem?_append]
  by_cases hlt : j < t.scopes.length
  · rw [if_pos hlt]
  · rw [if_neg hlt, List.getElem?_eq_none (Nat.le_of_not_lt hlt)]
    cases hnew : [(([] : Frame), parent)][j - t.scopes.length]? with
    | none => rfl
    | some s =>
      obtain rfl : s = ([], parent) := by simpa using List.mem_of_getElem? hnew
      rfl

end Updates

section Lookup
variable {t : ScopeForest} {name : String}

/-- Every scope is younger than the one around it. -/
def Ordered (t : ScopeForest) : Prop := ∀ i p, t.parent? i = some p → p < i

/-- A name is looked for from a scope outwards, as long as there is one, until a scope binds it. -/
inductive Finds (t : ScopeForest) (name : String) : Option Nat → Option Binding → Prop
  | outside : Finds t name none none
  | here {i : Nat} {b : Binding} : (t.frame i).get? name = some b → Finds t name (some i) (some b)
  | around {i : Nat} {r : Option Binding} : (t.frame i).get? name = none → Finds t name (t.parent? i) r →
      Finds t name (some i) r

theorem lookup_eq (h : t.Ordered) (i : Nat) (name : String) :
    t.lookup i name = ((t.frame i).get? name).or ((t.parent? i).bind (t.lookup · name)) := by
  have hparent := h i
  unfold lookup
  rw [chain]
  unfold frame parent? at *
  cases hscope : t.scopes[i]? with
  | none => rfl
  | some s =>
    obtain ⟨f, parent⟩ := s
    rw [hscope] at hparent
    cases parent with
    | none => exact Scope.lookup_cons f [] name
    | some p =>
      -- The scope around is older, so that the chain is not cut off here.
      have hlt : p < i := hparent p rfl
      dsimp only
      rw [dif_pos hlt]
      exact Scope.lookup_cons f (t.chain p) name

theorem finds_lookup (h : t.Ordered) (i : Nat) (name : String) : t.Finds name (some i) (t.lookup i name) := by
  induction i using Nat.strongRecOn with
  | ind i ih =>
    rw [lookup_eq h]
    cases hframe : (t.frame i).get? name with
    | some b => exact .here hframe
    | none =>
      apply Finds.around hframe
      cases hparent : t.parent? i with
      | none => exact .outside
      | some p => exact ih p (h i p hparent)

theorem Finds.unique {start : Option Nat} {r r' : Option Binding} (h : t.Finds name start r)
    (h' : t.Finds name start r') : r = r' := by
  induction h with
  | outside =>
    cases h'
    rfl
  | here hb =>
    cases h' with
    | here hb' => rw [← hb, ← hb']
    | around hnone _ => rw [hb] at hnone; cases hnone
  | around hnone _ ih =>
    cases h' with
    | here hb' => rw [hb'] at hnone; cases hnone
    | around _ hrest => exact ih hrest

end Lookup

inductive Event where
  /-- A scope is opened inside `parent`, or alone. -/
  | opened (parent : Option Nat)
  /-- A name is declared in a scope, with or without a binding. -/
  | declared (scope : Nat) (name : String) (binding : Option Binding)
deriving DecidableEq, Repr

namespace Event

/-- What is around the scope that an event opens, if it opens one. -/
def opening? : Event → Option (Option Nat)
  | .opened parent => some parent
  | .declared _ _ _ => none

def binding? (i : Nat) (name : String) : Event → Option Binding
  | .opened _ => none
  | .declared j other b => if j = i ∧ other = name then some (b.getD .declared) else none

/-- The scopes that an event speaks of are among the first `count`. -/
def Allowed (count : Nat) : Event → Prop
  | .opened parent => ∀ p ∈ parent, p < count
  | .declared i _ _ => i < count

instance (count : Nat) : (e : Event) → Decidable (e.Allowed count)
  | .opened parent => inferInstanceAs (Decidable (∀ p ∈ parent, p < count))
  | .declared i _ _ => inferInstanceAs (Decidable (i < count))

end Event

def step (t : ScopeForest) : Event → ScopeForest
  | .opened parent => t.push parent []
  | .declared i name b => t.declare i name b

def after (events : List Event) : ScopeForest := events.foldl step ⟨[]⟩

def parents (events : List Event) : List (Option Nat) := events.filterMap Event.opening?

/-- Events that can follow each other if there are `count` scopes at first. -/
def Legal (count : Nat) : List Event → Prop
  | [] => True
  | e :: events => e.Allowed count ∧ Legal (count + (parents [e]).length) events

instance decidableLegal : (count : Nat) → (events : List Event) → Decidable (Legal count events)
  | _, [] => inferInstanceAs (Decidable True)
  | count, e :: events =>
    have := decidableLegal (count + (parents [e]).length) events
    inferInstanceAs (Decidable (_ ∧ _))

/-- The binding that was declared last for a name of a scope. -/
def lastDeclared (events : List Event) (i : Nat) (name : String) : Option Binding :=
  events.reverse.findSome? (Event.binding? i name)

def Declared (events : List Event) (i : Nat) (name : String) : Prop := ∃ b, Event.declared i name b ∈ events

def Inside (events : List Event) (i p : Nat) : Prop := (parents events)[i]? = some (some p)

/-- The second scope is the first one or around it, at any distance. -/
def Sees (events : List Event) : Nat → Nat → Prop := Relation.ReflTransGen (Inside events)

/-- Of the scopes that are seen from `s` and ever declared the name, `a` is the nearest. -/
def Nearest (events : List Event) (s : Nat) (name : String) (a : Nat) : Prop :=
  Sees events s a ∧ Declared events a name ∧
    ∀ c, Sees events s c → Relation.TransGen (Inside events) c a → ¬Declared events c name

section Events
variable {events : List Event} {i : Nat} {name : String}

theorem parents_append (xs ys : List Event) : parents (xs ++ ys) = parents xs ++ parents ys := List.filterMap_append

theorem lastDeclared_append (xs ys : List Event) (i : Nat) (name : String) :
    lastDeclared (xs ++ ys) i name = (lastDeclared ys i name).or (lastDeclared xs i name) := by
  unfold lastDeclared
  rw [List.reverse_append, List.findSome?_append]

theorem lastDeclared_singleton (e : Event) (i : Nat) (name : String) : lastDeclared [e] i name = e.binding? i name := by
  unfold lastDeclared
  rw [List.reverse_singleton, List.findSome?_singleton]

theorem lastDeclared_eq_none_iff : lastDeclared events i name = none ↔ ¬Declared events i name := by
  unfold lastDeclared Declared
  rw [List.findSome?_eq_none_iff]
  constructor
  · rintro hnone ⟨b, hb⟩
    have h := hnone _ (List.mem_reverse.mpr hb)
    simp [Event.binding?] at h
  · intro hnever e he
    cases e with
    | opened parent => rfl
    | declared j other b =>
      apply if_neg
      rintro ⟨rfl, rfl⟩
      exact hnever ⟨b, List.mem_reverse.mp he⟩

theorem declared_of_lastDeclared {b : Binding} (hb : lastDeclared events i name = some b) : Declared events i name := by
  apply Classical.byContradiction
  intro hnever
  rw [lastDeclared_eq_none_iff.mpr hnever] at hb
  cases hb

theorem legal_append {count : Nat} {xs ys : List Event} :
    Legal count (xs ++ ys) ↔ Legal count xs ∧ Legal (count + (parents xs).length) ys := by
  induction xs generalizing count with
  | nil => simp [Legal, parents]
  | cons e xs ih =>
    have hlength : (parents (e :: xs)).length = (parents [e]).length + (parents xs).length := by
      rw [← List.singleton_append, parents_append, List.length_append]
    rw [List.cons_append, Legal, Legal, ih, hlength, Nat.add_assoc, and_assoc]

end Events

/-- The forest is as the events say. -/
structure Records (t : ScopeForest) (events : List Event) : Prop where
  size : t.size = (parents events).length
  parent (i : Nat) : t.parent? i = (parents events)[i]?.join
  binding (i : Nat) (name : String) : (t.frame i).get? name = lastDeclared events i name
  ordered : t.Ordered

namespace Records
variable {t : ScopeForest} {events : List Event} {i p : Nat}

theorem empty : Records ⟨[]⟩ [] where
  size := rfl
  parent _ := rfl
  binding _ _ := rfl
  ordered i p h := by cases h

theorem push (h : Records t events) {parent : Option Nat} (hparent : ∀ p ∈ parent, p < t.size) :
    Records (t.push parent []) (events ++ [.opened parent]) where
  size := by
    rw [size_push, parents_append, List.length_append, h.size]
    rfl
  parent i := by
    have hnew : parents [Event.opened parent] = [parent] := rfl
    rw [parent?_push, parents_append, hnew, List.getElem?_append, ← h.size, h.parent]
    by_cases hlt : i < t.size
    · rw [if_neg (Nat.ne_of_lt hlt), if_pos hlt]
    · by_cases heq : i = t.size
      · simp [heq]
      · have hfar : (parents events)[i]? = none := List.getElem?_eq_none (by rw [← h.size]; omega)
        have hlater : [parent][i - t.size]? = none := List.getElem?_eq_none (by rw [List.length_singleton]; omega)
        rw [if_neg heq, if_neg hlt, hfar, hlater]
  binding i name := by
    rw [frame_push, lastDeclared_append, lastDeclared_singleton, h.binding]
    rfl
  ordered i p hi := by
    rw [parent?_push] at hi
    split at hi
    · rename_i heq
      exact heq ▸ hparent p hi
    · exact h.ordered i p hi

theorem declare (h : Records t events) (hi : i < t.size) (name : String) (b : Option Binding) :
    Records (t.declare i name b) (events ++ [.declared i name b]) where
  size := by
    rw [size_declare, parents_append, h.size]
    exact congrArg List.length (List.append_nil _).symm
  parent j := by
    rw [parent?_declare, parents_append, h.parent]
    exact congrArg (fun ps => ps[j]?.join) (List.append_nil _).symm
  binding j other := by
    rw [frame_declare, lastDeclared_append, lastDeclared_singleton, Event.binding?, ← h.binding]
    by_cases hij : i = j
    · subst hij
      rw [if_pos ⟨rfl, hi⟩]
      by_cases hname : name = other
      · simp [hname]
      · simp [hname, Table.get?_put_of_ne _ _ hname]
    · simp [hij]
  ordered j p hj := by
    rw [parent?_declare] at hj
    exact h.ordered j p hj

theorem step (h : Records t events) {e : Event} (he : e.Allowed t.size) : Records (t.step e) (events ++ [e]) := by
  cases e with
  | opened parent => exact h.push he
  | declared i name b => exact h.declare he name b

theorem run (h : Records t events) {later : List Event} (hlegal : Legal t.size later) :
    Records (later.foldl ScopeForest.step t) (events ++ later) := by
  induction later generalizing t events with
  | nil =>
    rw [List.append_nil]
    exact h
  | cons e later ih =>
    have hnext : Records (t.step e) (events ++ [e]) := h.step hlegal.1
    have hsize : (t.step e).size = t.size + (parents [e]).length := by
      rw [hnext.size, parents_append, List.length_append, h.size]
    rw [List.foldl_cons, List.append_cons]
    exact ih hnext (hsize ▸ hlegal.2)

theorem of_legal (hlegal : Legal 0 events) : Records (after events) events := empty.run hlegal

theorem parent?_eq_some_iff (h : Records t events) : t.parent? i = some p ↔ Inside events i p := by
  rw [h.parent, Option.join_eq_some_iff]
  rfl

theorem lt_of_inside (h : Records t events) (hi : Inside events i p) : p < i :=
  h.ordered i p (h.parent?_eq_some_iff.mpr hi)

theorem le_of_sees (h : Records t events) {s a : Nat} (hs : Sees events s a) : a ≤ s := by
  induction hs with
  | refl => exact Nat.le_refl s
  | tail _ hstep ih =>
    have hlt := h.lt_of_inside hstep
    omega

theorem lt_of_transGen (h : Records t events) {c a : Nat} (hc : Relation.TransGen (Inside events) c a) : a < c := by
  obtain ⟨p, hp, hrest⟩ := Relation.TransGen.head'_iff.mp hc
  have hlt := h.lt_of_inside hp
  have hle := h.le_of_sees hrest
  omega

variable {name : String} {s a : Nat}

/-- No scope that is seen from `s` is nearer than `s` itself. -/
theorem not_nearer_self (h : Records t events) (hsees : Sees events s a) : ¬Relation.TransGen (Inside events) a s := by
  intro hnearer
  have hle := h.le_of_sees hsees
  have hlt := h.lt_of_transGen hnearer
  omega

theorem nearest_self (h : Records t events) (hs : Declared events s name) : Nearest events s name s := by
  refine ⟨.refl, hs, ?_⟩
  intro c hsees hnearer
  exact absurd hnearer (h.not_nearer_self hsees)

theorem nearest_iff_eq (h : Records t events) (hs : Declared events s name) : Nearest events s name a ↔ a = s := by
  constructor
  · rintro ⟨hsees, -, hnearer⟩
    rcases Relation.reflTransGen_iff_eq_or_transGen.mp hsees with heq | hfurther
    · exact heq
    · exact absurd hs (hnearer s .refl hfurther)
  · rintro rfl
    exact h.nearest_self hs

end Records

section Nearest
variable {events : List Event} {s p a : Nat} {name : String}

theorem sees_iff_of_inside (hp : Inside events s p) : Sees events s a ↔ a = s ∨ Sees events p a := by
  constructor
  · intro hsees
    rcases Relation.ReflTransGen.cases_head hsees with heq | ⟨q, hq, hrest⟩
    · exact .inl heq.symm
    · obtain rfl : q = p := Option.some.inj (Option.some.inj (hq.symm.trans hp))
      exact .inr hrest
  · rintro (rfl | hrest)
    · exact .refl
    · exact .head hp hrest

theorem sees_iff_of_alone (hnone : ∀ p, ¬Inside events s p) : Sees events s a ↔ a = s := by
  constructor
  · intro hsees
    rcases Relation.ReflTransGen.cases_head hsees with heq | ⟨q, hq, -⟩
    · exact heq.symm
    · exact absurd hq (hnone q)
  · rintro rfl
    exact .refl

/-- A scope that never declared the name leaves the search to the one around it. -/
theorem nearest_iff_of_inside (hs : ¬Declared events s name) (hp : Inside events s p) :
    Nearest events s name a ↔ Nearest events p name a := by
  constructor
  · rintro ⟨hsees, ha, hnearer⟩
    refine ⟨?_, ha, fun c hc => hnearer c (.head hp hc)⟩
    rcases (sees_iff_of_inside hp).mp hsees with rfl | hrest
    · exact absurd ha hs
    · exact hrest
  · rintro ⟨hsees, ha, hnearer⟩
    refine ⟨.head hp hsees, ha, ?_⟩
    intro c hc
    rcases (sees_iff_of_inside hp).mp hc with rfl | hrest
    · exact fun _ => hs
    · exact hnearer c hrest

end Nearest

namespace Records
variable {t u : ScopeForest} {events others : List Event} {s : Nat} {name : String}

/-- One step of the search, by the events alone. -/
theorem lookup_cases (h : Records t events) (s : Nat) (name : String) :
    (∃ b, lastDeclared events s name = some b ∧ t.lookup s name = some b) ∨
    (¬Declared events s name ∧ (∀ p, ¬Inside events s p) ∧ t.lookup s name = none) ∨
    ∃ p, ¬Declared events s name ∧ Inside events s p ∧ t.lookup s name = t.lookup p name := by
  rw [lookup_eq h.ordered, h.binding]
  cases hlast : lastDeclared events s name with
  | some b => exact .inl ⟨b, rfl, rfl⟩
  | none =>
    have hnever := lastDeclared_eq_none_iff.mp hlast
    cases hparent : t.parent? s with
    | none =>
      refine .inr (.inl ⟨hnever, ?_, rfl⟩)
      intro p hp
      rw [h.parent?_eq_some_iff.mpr hp] at hparent
      cases hparent
    | some p => exact .inr (.inr ⟨p, hnever, h.parent?_eq_some_iff.mp hparent, rfl⟩)

theorem lookup_eq_some_iff (h : Records t events) {b : Binding} :
    t.lookup s name = some b ↔ ∃ a, Nearest events s name a ∧ lastDeclared events a name = some b := by
  induction s using Nat.strongRecOn with
  | ind s ih =>
    rcases h.lookup_cases s name with ⟨b', hlast, hfound⟩ | ⟨hnever, halone, hfound⟩ | ⟨p, hnever, hp, hfound⟩
    · have hself : ∀ a, Nearest events s name a ↔ a = s := fun a => h.nearest_iff_eq (declared_of_lastDeclared hlast)
      simp [hself, hfound, hlast]
    · rw [hfound]
      constructor
      · intro hb
        cases hb
      · rintro ⟨a, ⟨hsees, ha, -⟩, -⟩
        rw [(sees_iff_of_alone halone).mp hsees] at ha
        exact absurd ha hnever
    · simp only [nearest_iff_of_inside hnever hp, hfound]
      exact ih p (h.lt_of_inside hp)

theorem lookup_eq_none_iff (h : Records t events) :
    t.lookup s name = none ↔ ∀ a, Sees events s a → ¬Declared events a name := by
  induction s using Nat.strongRecOn with
  | ind s ih =>
    rcases h.lookup_cases s name with ⟨b, hlast, hfound⟩ | ⟨hnever, halone, hfound⟩ | ⟨p, hnever, hp, hfound⟩
    · rw [hfound]
      constructor
      · intro hb
        cases hb
      · intro hnone
        exact absurd (declared_of_lastDeclared hlast) (hnone s .refl)
    · simp [hfound, sees_iff_of_alone halone, hnever]
    · rw [hfound, ih p (h.lt_of_inside hp)]
      simp only [sees_iff_of_inside hp, or_imp, forall_and, forall_eq, hnever, not_false_iff, true_and]

/-- Only the scopes up to the nearest one that declared the name matter. -/
theorem lookup_congr (h : Records t events) (hothers : Records u others) (hparents : parents events = parents others)
    (hagree : ∀ c, Sees events s c →
      (∀ d, Sees events s d → Relation.TransGen (Inside events) d c → ¬Declared events d name) →
      lastDeclared events c name = lastDeclared others c name) : t.lookup s name = u.lookup s name := by
  induction s using Nat.strongRecOn with
  | ind s ih =>
    have hself : lastDeclared events s name = lastDeclared others s name := by
      apply hagree s .refl
      intro d hd hnearer
      exact absurd hnearer (h.not_nearer_self hd)
    have hparent : u.parent? s = t.parent? s := by rw [h.parent, hothers.parent, hparents]
    rw [lookup_eq h.ordered, lookup_eq hothers.ordered, h.binding, hothers.binding, ← hself, hparent]
    cases hlast : lastDeclared events s name with
    | some b => rfl
    | none =>
      have hnever := lastDeclared_eq_none_iff.mp hlast
      cases hp : t.parent? s with
      | none => rfl
      | some p =>
        -- The scope itself never declared the name, so it hides nothing that is seen from the one around it.
        have hinside := h.parent?_eq_some_iff.mp hp
        apply ih p (h.lt_of_inside hinside)
        intro c hc hnearer
        apply hagree c (.head hinside hc)
        intro d hd
        rcases (sees_iff_of_inside hinside).mp hd with rfl | hd
        · exact fun _ => hnever
        · exact hnearer d hd

end Records

section Dropped
variable {before later : List Event} {a s : Nat} {m name : String} {b : Option Binding}

theorem parents_dropped : parents (before ++ .declared a m b :: later) = parents (before ++ later) := by
  rw [parents_append, parents_append]
  rfl

theorem legal_dropped {count : Nat} (h : Legal count (before ++ .declared a m b :: later)) :
    Legal count (before ++ later) := by
  rw [legal_append] at h ⊢
  exact ⟨h.1, h.2.2⟩

theorem lastDeclared_dropped {c : Nat} (hc : c ≠ a) :
    lastDeclared (before ++ .declared a m b :: later) c name = lastDeclared (before ++ later) c name := by
  have hother : Event.binding? c name (.declared a m b) = none := if_neg fun h => hc h.1.symm
  rw [List.append_cons, lastDeclared_append, lastDeclared_append before [_], lastDeclared_singleton, hother,
    lastDeclared_append, Option.none_or]

/-- A declaration that is not seen, or not before another one is, might as well not have been made. -/
theorem lookup_dropped (h : Legal 0 (before ++ .declared a m b :: later))
    (hfar : ¬Sees (before ++ later) s a ∨
      ∃ c, Nearest (before ++ later) s name c ∧ Relation.TransGen (Inside (before ++ later)) c a) :
    (after (before ++ .declared a m b :: later)).lookup s name = (after (before ++ later)).lookup s name := by
  symm
  apply (Records.of_legal (legal_dropped h)).lookup_congr (Records.of_legal h) parents_dropped.symm
  -- The search does not get as far as the scope of the dropped declaration.
  intro c hc hnearer
  refine (lastDeclared_dropped ?_).symm
  rintro rfl
  rcases hfar with hunseen | ⟨d, ⟨hd, hdeclared, -⟩, hfurther⟩
  · exact hunseen hc
  · exact hnearer d hd hfurther hdeclared

end Dropped

/-- After every history of scopes the search for a name from a scope ends. It gives the binding that was declared last
in the nearest scope, from there outwards, that ever declared the name, where a declaration without a binding is one of
the module itself, and nothing if there is no such scope. A declaration in a scope that is not seen from there, or in
one around the nearest, whenever it was made, has no part in the answer. -/
theorem lookup_over_history {events : List Event} (h : Legal 0 events) (s : Nat) (name : String) :
    (∀ r, (after events).Finds name (some s) r ↔ r = (after events).lookup s name) ∧
    (∀ b, (after events).lookup s name = some b ↔
      ∃ a, Nearest events s name a ∧ lastDeclared events a name = some b) ∧
    ((after events).lookup s name = none ↔ ∀ a, Sees events s a → ¬Declared events a name) ∧
    ∀ before later a m b, events = before ++ .declared a m b :: later →
      (¬Sees (before ++ later) s a ∨
        ∃ c, Nearest (before ++ later) s name c ∧ Relation.TransGen (Inside (before ++ later)) c a) →
      (after events).lookup s name = (after (before ++ later)).lookup s name := by
  have hrecords : Records (after events) events := .of_legal h
  have hfinds := finds_lookup hrecords.ordered s name
  refine ⟨?_, fun b => hrecords.lookup_eq_some_iff, hrecords.lookup_eq_none_iff, ?_⟩
  · intro r
    constructor
    · intro hr
      exact hr.unique hfinds
    · rintro rfl
      exact hfinds
  · rintro before later a m b rfl hfar
    exact lookup_dropped h hfar

/-- An imported name that an inner scope declares anew before the outer one binds it again. -/
def shadowing : List Event :=
  [.opened none, .declared 0 "f" (some (.imported (some "./b") (some "f"))), .opened (some 0), .declared 1 "f" none,
    .opened (some 1), .declared 0 "f" (some (.imported (some "./c") (some "f")))]

theorem lookup_over_history_shadowing :
    Legal 0 shadowing ∧ (after shadowing).lookup 2 "f" = some .declared ∧
      (after shadowing).lookup 0 "f" = some (.imported (some "./c") (some "f")) ∧
      (after shadowing).lookup 2 "f" = (after (shadowing.take 5)).lookup 2 "f" := by
  have h : Legal 0 shadowing := by decide
  have hbefore : Legal 0 (shadowing.take 5) := by decide
  have hinside : Inside (shadowing.take 5) 2 1 := rfl
  have hnever : ¬Declared (shadowing.take 5) 2 "f" := lastDeclared_eq_none_iff.mp (by decide)
  have hinner : Nearest (shadowing.take 5) 2 "f" 1 :=
    (nearest_iff_of_inside hnever hinside).mpr ((Records.of_legal hbefore).nearest_self ⟨none, by decide⟩)
  have houter : Nearest shadowing 0 "f" 0 :=
    (Records.of_legal h).nearest_self (declared_of_lastDeclared (b := .imported (some "./c") (some "f")) (by decide))
  have hsame : (after shadowing).lookup 2 "f" = (after (shadowing.take 5)).lookup 2 "f" :=
    (lookup_over_history h 2 "f").2.2.2 (shadowing.take 5) [] 0 "f" _ rfl (.inr ⟨1, hinner, .single rfl⟩)
  refine ⟨h, ?_, ?_, hsame⟩
  · rw [hsame]
    exact ((lookup_over_history hbefore 2 "f").2.1 .declared).mpr ⟨1, hinner, by decide⟩
  · exact ((lookup_over_history h 0 "f").2.1 _).mpr ⟨0, houter, by decide⟩

end ScopeForest

end CorpusShape
