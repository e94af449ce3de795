import CorpusShape.Yaml.Content
import Mathlib.Data.List.Basic

/-!
# Faults in YAML texts

A text that is no YAML is malformed. There are other ways in which a text may fail to be read: an escape by code may
stand for no character, the number of a version may have too many digits, and a scalar may have a text that does not fit
its tag. Tokens give rise to the first two only, nodes to none of them, and values to the last.
-/
namespace CorpusShape.Yaml
variable {α β : Type} {P Q : Fault → Prop} {x : Reading α} {f : α → Reading β}

/-- A reading fails only because the text is malformed, or with a fault of a kind. -/
def Raises (P : Fault → Prop) (x : Reading α) : Prop := ∀ fault, x = .error fault → fault = .malformed ∨ P fault

namespace Raises

theorem ok (a : α) : Raises P (.ok a : Reading α) := fun _ h => by cases h

theorem pure (a : α) : Raises P (Pure.pure a : Reading α) := ok a

theorem malformed : Raises P (.error .malformed : Reading α) := by
  intro fault h
  cases h
  exact .inl rfl

theorem error {fault : Fault} (h : P fault) : Raises P (.error fault : Reading α) := by
  intro fault' h'
  cases h'
  exact .inr h

theorem bind (hx : Raises P x) (hf : ∀ a, x = .ok a → Raises P (f a)) : Raises P (x >>= f) := by
  intro fault h
  cases hrun : x with
  | error fault' =>
    rw [hrun] at h
    cases h
    exact hx fault hrun
  | ok a =>
    rw [hrun] at h
    exact hf a hrun fault h

theorem map {g : α → β} (hx : Raises P x) : Raises P (x.map g) := by
  intro fault h
  cases hrun : x with
  | error fault' =>
    rw [hrun] at h
    cases h
    exact hx fault hrun
  | ok a =>
    rw [hrun] at h
    cases h

theorem ite {c : Prop} [Decidable c] {y : Reading α} (hx : Raises P x) (hy : Raises P y) :
    Raises P (if c then x else y) := by
  split
  · exact hx
  · exact hy

/-- A check that comes before other steps. -/
theorem check {c : Prop} [Decidable c] {next : Unit → Reading α} (h : ∀ u, Raises P (next u)) :
    Raises P (if c then (.error .malformed : Reading Unit) >>= next else next ()) :=
  .ite (.bind .malformed fun u _ => h u) (h ())

theorem mono (hx : Raises P x) (h : ∀ fault, P fault → Q fault) : Raises Q x := fun fault hfault =>
  (hx fault hfault).imp_right (h fault)

end Raises

section Tokens

/-- Faults of tokens: of escapes by code, and of numbers of versions. -/
def Fault.OfToken (fault : Fault) : Prop :=
  fault = .badCode ∨ fault = .tooLarge ∨ ∃ count, fault = .tooManyDigits count

theorem raises_ignoredLine (s : Spot) : Raises P (ignoredLine s) := .ite (.ok _) .malformed

theorem raises_uriEscapes (fuel : Nat) (bytes : List UInt8) (s : Spot) : Raises P (uriEscapes fuel bytes s) := by
  induction fuel generalizing bytes s with
  | zero => exact .malformed
  | succ fuel ih =>
    unfold uriEscapes
    refine .ite (.ite (ih _ _) .malformed) ?_
    split
    · exact .ok _
    · exact .malformed

theorem raises_uri (s : Spot) : Raises P (uri s) := by
  have hgo : ∀ fuel done s, Raises P (uri.go fuel done s) := by
    intro fuel
    induction fuel with
    | zero => exact fun _ _ => .malformed
    | succ fuel ih =>
      intro done s
      unfold uri.go
      exact .ite (.bind (raises_uriEscapes _ _ _) fun _ _ => ih _ _) (.ite .malformed (.pure _))
  exact hgo _ _ _

theorem raises_tagHandle (s : Spot) : Raises P (tagHandle s) :=
  .ite .malformed (.ite (.ok _) (.ite (.ok _) .malformed))

theorem raises_tagToken (s : Spot) : Raises P (tagToken s) := by
  unfold tagToken
  extract_lets last ahead named
  have hlast : ∀ r, Raises P (last r) := fun _ => .ite (.pure _) .malformed
  have hnamed : ∀ r, Raises P (named r) := fun _ => .bind (raises_uri _) fun _ _ => .bind (.pure _) fun r _ => hlast r
  split
  · refine .bind (raises_uri _) fun _ _ => .ite ?_ ?_
    · exact .bind (.pure _) fun r _ => hlast r
    · exact .bind .malformed fun r _ => hlast r
  · refine .ite ?_ (.ite ?_ ?_)
    · exact .bind (.pure _) fun r _ => hlast r
    · exact .bind (raises_tagHandle _) fun r _ => hnamed r
    · exact .bind (.pure _) fun r _ => hnamed r

theorem raises_anchorName (s : Spot) : Raises P (anchorName s) := .ite .malformed (.ok _)

theorem raises_directive (s : Spot) : Raises Fault.OfToken (directive s) := by
  unfold directive
  refine .check fun _ => ?_
  extract_lets number
  have hnumber : ∀ s, Raises Fault.OfToken (number s) := fun _ =>
    .ite .malformed (.ite (.error (.inr (.inr ⟨_, rfl⟩))) (.ok _))
  split
  · refine .bind (hnumber _) fun _ _ => .check fun _ => .bind (hnumber _) fun _ _ => .check fun _ => ?_
    exact .bind (raises_ignoredLine _) fun _ _ => .pure _
  · refine .bind (raises_tagHandle _) fun _ _ => .check fun _ => .bind (raises_uri _) fun _ _ => .check fun _ => ?_
    exact .bind (raises_ignoredLine _) fun _ _ => .pure _
  · exact .bind (raises_ignoredLine _) fun _ _ => .pure _

theorem raises_blockMarks (s : Spot) : Raises P (blockMarks s) := by
  unfold blockMarks
  extract_lets chomping increment last
  have hlast : ∀ r, Raises P (last r) := fun _ => .ite (.pure _) .malformed
  have hincrement : ∀ s, Raises P (increment s) := by
    intro s
    dsimp only [increment]
    split
    · exact .ite .malformed (.ite (.ok _) (.ok _))
    · exact .ok _
  split
  · exact .bind (hincrement _) fun _ _ => .bind (.pure _) fun r _ => hlast r
  · refine .bind (hincrement _) fun _ _ => ?_
    dsimp only
    split
    · exact .bind (.pure _) fun r _ => hlast r
    · exact .bind (.pure _) fun r _ => hlast r

theorem raises_blockScalar (folded : Bool) (indent : Int) (s : Spot) : Raises P (blockScalar folded indent s) := by
  unfold blockScalar
  exact .bind (raises_blockMarks _) fun _ _ => .bind (raises_ignoredLine _) fun _ _ => .pure _

theorem raises_quotedBreaks (fuel : Nat) (done : List Char) (s : Spot) : Raises P (quotedBreaks fuel done s) := by
  induction fuel generalizing done s with
  | zero => exact .malformed
  | succ fuel ih =>
    unfold quotedBreaks
    refine .ite .malformed ?_
    dsimp only
    split
    · exact .ok _
    · exact ih _ _

theorem raises_escape (s : Spot) : Raises Fault.OfToken (escape s) := by
  unfold escape
  split
  · exact .malformed
  · split
    · exact .ok _
    · exact .ite (.ite (.ok _) (.ite (.error (.inl rfl)) (.error (.inr (.inl rfl))))) .malformed
    · exact .ite (raises_quotedBreaks _ _ _) .malformed

theorem raises_quotedScalar (double : Bool) (fuel : Nat) (done : List Char) (s : Spot) :
    Raises Fault.OfToken (quotedScalar double fuel done s) := by
  induction fuel generalizing done s with
  | zero => exact .malformed
  | succ fuel ih =>
    unfold quotedScalar
    split
    · exact .malformed
    · refine .ite (.ite (ih _ _) (.ok _)) (.ite (.ok _) (.ite ?_ (.ite ?_ (ih _ _))))
      · exact .bind (raises_escape _) fun _ _ => ih _ _
      · dsimp only
        split
        · exact .ite .malformed (ih _ _)
        · exact .bind (raises_quotedBreaks _ _ _) fun _ _ => ih _ _

namespace Layout
variable (l : Layout)

theorem raises_dropStale : Raises P l.dropStale := .ite .malformed (.ok _)

theorem raises_dropKey : Raises P l.dropKey := .ite .malformed (.ok _)

theorem raises_saveKey : Raises P l.saveKey := .ite (.bind (raises_dropKey _) fun _ _ => .pure _) (.ok _)

theorem raises_closeAll : Raises P l.closeAll := .bind (raises_dropKey _) fun _ _ => .pure _

theorem raises_flowStart (t : Token) : Raises P (l.flowStart t) := .bind (raises_saveKey _) fun _ _ => .pure _

theorem raises_flowEnd (t : Token) : Raises P (l.flowEnd t) :=
  .bind (raises_dropKey _) fun _ _ => .ite .malformed (.pure _)

theorem raises_flowEntry : Raises P l.flowEntry := .bind (raises_dropKey _) fun _ _ => .pure _

theorem raises_blockEntry : Raises P l.blockEntry := by
  unfold blockEntry
  exact .check fun _ => .bind (raises_dropKey _) fun _ _ => .pure _

theorem raises_keyMark : Raises P l.keyMark := by
  unfold keyMark
  exact .check fun _ => .bind (raises_dropKey _) fun _ _ => .pure _

theorem raises_valueMark : Raises P l.valueMark := by
  unfold valueMark
  split
  · exact .ok _
  · exact .check fun _ => .bind (raises_dropKey _) fun _ _ => .pure _

theorem raises_keyToken {read : Spot → Reading (Token × Spot)} (hread : ∀ s, Raises P (read s)) :
    Raises P (l.keyToken read) :=
  .bind (raises_saveKey _) fun _ _ => .bind (hread _) fun _ _ => .pure _

theorem raises_block (folded : Bool) : Raises P (l.block folded) :=
  .bind (raises_dropKey _) fun _ _ => .bind (raises_blockScalar _ _ _) fun _ _ => .pure _

theorem raises_plain : Raises P l.plain := .bind (raises_saveKey _) fun _ _ => .pure _

/-- A token fails with a fault of its own only in a quoted text. -/
theorem raises_token (c : Char) : Raises Fault.OfToken (l.token c) := by
  unfold token
  refine .ite ?_ (.ite ?_ ?_)
  · exact .bind (raises_closeAll _) fun _ _ => .bind (raises_directive _) fun _ _ => .pure _
  · exact .bind (raises_closeAll _) fun _ _ => .pure _
  · split
    · exact raises_flowStart _ _
    · exact raises_flowStart _ _
    · exact raises_flowEnd _ _
    · exact raises_flowEnd _ _
    · exact raises_flowEntry _
    · exact raises_keyToken _ fun _ => (raises_anchorName _).map
    · exact raises_keyToken _ fun _ => (raises_anchorName _).map
    · exact raises_keyToken _ raises_tagToken
    · exact raises_keyToken _ fun _ => raises_quotedScalar _ _ _ _
    · exact raises_keyToken _ fun _ => raises_quotedScalar _ _ _ _
    · refine .ite (raises_blockEntry _) (.ite (raises_keyMark _) (.ite (raises_valueMark _) ?_))
      exact .ite (raises_block _ _) (.ite (raises_block _ _) (.ite (raises_plain _) .malformed))

theorem raises_run (fuel : Nat) (l : Layout) : Raises Fault.OfToken (run fuel l) := by
  induction fuel generalizing l with
  | zero => exact .malformed
  | succ fuel ih =>
    unfold run
    refine .bind (raises_dropStale _) fun l _ => ?_
    dsimp only
    split
    · exact .bind (raises_dropKey _) fun _ _ => .pure _
    · exact .bind (raises_token _ _) fun l _ => ih l

end Layout

theorem raises_tokens (cs : List Char) : Raises Fault.OfToken (tokens cs) := (Layout.raises_run _ _).map

end Tokens

section Nodes

namespace Node
variable {handles : Table String} {fuel : Nat}

/-- With so much fuel, nodes are read or the text is malformed. -/
structure OnlyMalformed (handles : Table String) (fuel : Nat) : Prop where
  read : ∀ block loose p, Raises (fun _ => False) (read handles fuel block loose p)
  blockItems : ∀ p, Raises (fun _ => False) (blockItems handles fuel p)
  looseItems : ∀ p, Raises (fun _ => False) (looseItems handles fuel p)
  blockEntries : ∀ p, Raises (fun _ => False) (blockEntries handles fuel p)
  flowItems : ∀ first p, Raises (fun _ => False) (flowItems handles fuel first p)
  flowEntries : ∀ first p, Raises (fun _ => False) (flowEntries handles fuel first p)

theorem raises_tagName (name : Option String × String) : Raises (fun _ => False) (tagName handles name) := by
  unfold tagName
  split
  · exact .ok _
  · split
    · exact .ok _
    · exact .malformed

namespace OnlyMalformed

theorem zero (handles : Table String) : OnlyMalformed handles 0 where
  read _ _ _ := by
    unfold Node.read
    exact .malformed
  blockItems _ := by
    unfold Node.blockItems
    exact .malformed
  looseItems _ := by
    unfold Node.looseItems
    exact .malformed
  blockEntries _ := by
    unfold Node.blockEntries
    exact .malformed
  flowItems _ _ := by
    unfold Node.flowItems
    exact .malformed
  flowEntries _ _ := by
    unfold Node.flowEntries
    exact .malformed

theorem blockItems_succ (h : OnlyMalformed handles fuel) (p : Place) :
    Raises (fun _ => False) (Node.blockItems handles (fuel + 1) p) := by
  unfold Node.blockItems
  extract_lets rest
  have hrest : ∀ r, Raises (fun _ => False) (rest r) := fun r => .bind (h.blockItems r.2) fun _ _ => .pure _
  refine .ite (.ite ?_ ?_) (.ite (.ok _) .malformed)
  · exact .bind (.pure _) fun r _ => hrest r
  · exact .bind (h.read _ _ _) fun r _ => hrest r

theorem looseItems_succ (h : OnlyMalformed handles fuel) (p : Place) :
    Raises (fun _ => False) (Node.looseItems handles (fuel + 1) p) := by
  unfold Node.looseItems
  extract_lets rest
  have hrest : ∀ r, Raises (fun _ => False) (rest r) := fun r => .bind (h.looseItems r.2) fun _ _ => .pure _
  refine .ite (.ite ?_ ?_) (.ok _)
  · exact .bind (.pure _) fun r _ => hrest r
  · exact .bind (h.read _ _ _) fun r _ => hrest r

theorem blockEntries_succ (h : OnlyMalformed handles fuel) (p : Place) :
    Raises (fun _ => False) (Node.blockEntries handles (fuel + 1) p) := by
  unfold Node.blockEntries
  extract_lets ends afterKey
  have hafterKey : ∀ r, Raises (fun _ => False) (afterKey r) := by
    intro r
    refine .ite ?_ ?_
    · exact .bind (.ite (.pure _) (h.read _ _ _)) fun _ _ => .bind (h.blockEntries _) fun _ _ => .pure _
    · exact .bind (.pure _) fun _ _ => .bind (h.blockEntries _) fun _ _ => .pure _
  refine .ite (.ite ?_ ?_) (.ite (.ok _) .malformed)
  · exact .bind (.pure _) fun r _ => hafterKey r
  · exact .bind (h.read _ _ _) fun r _ => hafterKey r

theorem flowItems_succ (h : OnlyMalformed handles fuel) (first : Bool) (p : Place) :
    Raises (fun _ => False) (Node.flowItems handles (fuel + 1) first p) := by
  unfold Node.flowItems
  extract_lets rest afterKey item
  have hrest : ∀ r, Raises (fun _ => False) (rest r) := fun r => .bind (h.flowItems _ r.2) fun _ _ => .pure _
  have hafterKey : ∀ r, Raises (fun _ => False) (afterKey r) := by
    intro r
    refine .ite ?_ ?_
    · exact .bind (.ite (.pure _) (h.read _ _ _)) fun _ _ => .bind (.pure _) fun r _ => hrest r
    · exact .bind (.pure _) fun _ _ => .bind (.pure _) fun r _ => hrest r
  have hitem : ∀ p, Raises (fun _ => False) (item p) := by
    intro p
    refine .ite (.pure _) (.ite (.ite ?_ ?_) ?_)
    · exact .bind (.pure _) fun r _ => hafterKey r
    · exact .bind (h.read _ _ _) fun r _ => hafterKey r
    · exact .bind (h.read _ _ _) fun r _ => hrest r
  refine .ite (.ok _) (.ite ?_ (.ite ?_ ?_))
  · exact .bind (.pure _) fun p _ => hitem p
  · exact .bind (.pure _) fun p _ => hitem p
  · exact .bind .malformed fun p _ => hitem p

theorem flowEntries_succ (h : OnlyMalformed handles fuel) (first : Bool) (p : Place) :
    Raises (fun _ => False) (Node.flowEntries handles (fuel + 1) first p) := by
  unfold Node.flowEntries
  extract_lets rest afterKey entry
  have hrest : ∀ r, Raises (fun _ => False) (rest r) := fun r => .bind (h.flowEntries _ r.2.2) fun _ _ => .pure _
  have hafterKey : ∀ r, Raises (fun _ => False) (afterKey r) := by
    intro r
    refine .ite ?_ ?_
    · exact .bind (.ite (.pure _) (h.read _ _ _)) fun _ _ => .bind (.pure _) fun r _ => hrest r
    · exact .bind (.pure _) fun _ _ => .bind (.pure _) fun r _ => hrest r
  have hentry : ∀ p, Raises (fun _ => False) (entry p) := by
    intro p
    refine .ite (.pure _) (.ite (.ite ?_ ?_) ?_)
    · exact .bind (.pure _) fun r _ => hafterKey r
    · exact .bind (h.read _ _ _) fun r _ => hafterKey r
    · exact .bind (h.read _ _ _) fun _ _ => .bind (.pure _) fun r _ => hrest r
  refine .ite (.ok _) (.ite ?_ (.ite ?_ ?_))
  · exact .bind (.pure _) fun p _ => hentry p
  · exact .bind (.pure _) fun p _ => hentry p
  · exact .bind .malformed fun p _ => hentry p

theorem read_succ (h : OnlyMalformed handles fuel) (block loose : Bool) (p : Place) :
    Raises (fun _ => False) (Node.read handles (fuel + 1) block loose p) := by
  unfold Node.read
  split
  · split
    · exact .ok _
    · exact .ok _
    · exact .malformed
  · generalize properties p = properties
    obtain ⟨anchor, tag, p⟩ := properties
    dsimp -zeta only
    extract_lets afterTag
    have hafterTag : ∀ own, Raises (fun _ => False) (afterTag own) := by
      intro own
      dsimp -zeta only [afterTag]
      extract_lets sequence mapping shape
      have hsequence : ∀ items, (∀ p, Raises (fun _ => False) (items p)) → Raises (fun _ => False) (sequence items) :=
        fun _ hitems => .bind (hitems _) fun _ _ => .pure _
      have hmapping : ∀ entries, (∀ p, Raises (fun _ => False) (entries p)) → Raises (fun _ => False) (mapping entries) :=
        fun _ hentries => .bind (hentries _) fun _ _ => .pure _
      have hshape : ∀ u, Raises (fun _ => False) (shape u) := by
        intro u
        dsimp -zeta only [shape]
        split
        · exact .ite (hsequence _ h.looseItems) (.ite (.ok _) .malformed)
        · exact .pure _
        · exact hsequence _ fun _ => h.flowItems _ _
        · exact hmapping _ fun _ => h.flowEntries _ _
        · exact .ite (hsequence _ fun _ => h.blockItems _) (.ite (.ok _) .malformed)
        · exact .ite (hmapping _ fun _ => h.blockEntries _) (.ite (.ok _) .malformed)
        · exact .ite (.ok _) .malformed
      exact .check hshape
    split
    · exact .bind (raises_tagName _).map fun own _ => hafterTag own
    · exact .bind (.pure _) fun own _ => hafterTag own

theorem succ (h : OnlyMalformed handles fuel) : OnlyMalformed handles (fuel + 1) :=
  ⟨h.read_succ, h.blockItems_succ, h.looseItems_succ, h.blockEntries_succ, h.flowItems_succ, h.flowEntries_succ⟩

end OnlyMalformed

theorem onlyMalformed (handles : Table String) (fuel : Nat) : OnlyMalformed handles fuel := by
  induction fuel with
  | zero => exact .zero handles
  | succ fuel ih => exact ih.succ

theorem raises_directives (versioned : Bool) (handles : Table String) (ts : List Token) :
    Raises (fun _ => False) (directives versioned handles ts) := by
  fun_induction directives versioned handles ts with
  | case1 | case3 => exact .malformed
  | case2 _ _ _ _ _ _ ih | case4 _ _ _ _ _ _ ih | case5 _ _ _ _ _ _ _ ih => exact ih
  | case6 => exact .ok _

theorem raises_ofTokens (ts : List Token) : Raises (fun _ => False) (ofTokens ts) := by
  have hexplicit : ∀ fuel ends, Raises (fun _ => False) (ofTokens.explicit ts fuel ends) := by
    intro fuel ends
    unfold ofTokens.explicit
    refine .bind (raises_directives _ _ _) fun r _ => ?_
    obtain ⟨handles, rest⟩ := r
    extract_lets last
    dsimp -zeta only
    extract_lets p document
    have hlast : ∀ r, Raises (fun _ => False) (last r) := fun _ => .ite (.pure _) .malformed
    have hdocument : ∀ u, Raises (fun _ => False) (document u) := by
      intro u
      dsimp -zeta only [document]
      split
      · exact .bind (.pure _) fun r _ => hlast r
      · exact .bind (.pure _) fun r _ => hlast r
      · exact .bind (.pure _) fun r _ => hlast r
      · exact .bind (.pure _) fun r _ => hlast r
      · exact .bind ((onlyMalformed _ _).read _ _ _) fun r _ => hlast r
    exact .check hdocument
  unfold ofTokens
  dsimp only
  split
  · exact .ok _
  · exact hexplicit _ _
  · exact hexplicit _ _
  · exact .bind ((onlyMalformed _ _).read _ _ _) fun r _ => .ite (.pure _) .malformed

end Node

end Nodes

section Values

namespace Node

/-- Giving the text of a node is malformed or goes well. -/
theorem raises_text_all :
    (∀ n : Node, Raises (fun _ => False) n.text) ∧ ∀ entries, Raises (fun _ => False) (defaultText entries) := by
  refine text.mutual_induct _ _ ?_ ?_ ?_ ?_ ?_ ?_ ?_
  · intro tag s
    rw [text]
    exact .ok _
  · intro tag entries ih
    rw [text]
    exact ih
  · intro tag items
    rw [text]
    exact .malformed
  · intro isMapping
    rw [text]
    exact .malformed
  · rw [defaultText]
    exact .malformed
  · intro k v rest hvalue ih
    rw [defaultText, if_pos hvalue]
    exact ih
  · intro k v rest hvalue ih
    rw [defaultText, if_neg hvalue]
    exact ih

/-- A scalar of a tree, or a mapping in the place of one, has a text that does not fit its tag, and this is the fault. -/
inductive Blames (fault : Fault) : Node → Prop
  | scalar {tag : Tag} {text : String} (h : scalarValue tag text = .error fault) : Blames fault (.scalar tag text)
  | default {tag : Tag} {entries : List (Node × Node)} {text : String} (htext : defaultText entries = .ok text)
      (h : scalarValue tag text = .error fault) : Blames fault (.mapping tag entries)
  | time {entries : List (Node × Node)} {text : String} (htext : defaultText entries = .ok text)
      (h : fault = .notText) : Blames fault (.mapping .timestamp entries)
  | item {tag : Tag} {items : List Node} {n : Node} (hn : n ∈ items) (h : Blames fault n) :
      Blames fault (.sequence tag items)
  | key {tag : Tag} {entries : List (Node × Node)} {k v : Node} (hn : (k, v) ∈ entries) (h : Blames fault k) :
      Blames fault (.mapping tag entries)
  | value {tag : Tag} {entries : List (Node × Node)} {k v : Node} (hn : (k, v) ∈ entries) (h : Blames fault v) :
      Blames fault (.mapping tag entries)

def ItemBlames (items : List Node) (fault : Fault) : Prop := ∃ n ∈ items, n.Blames fault

def EntryBlames (entries : List (Node × Node)) (fault : Fault) : Prop :=
  ∃ k v, (k, v) ∈ entries ∧ (k.Blames fault ∨ v.Blames fault)

theorem Blames.of_items {tag : Tag} {items : List Node} {fault : Fault} (h : ItemBlames items fault) :
    (Node.sequence tag items).Blames fault := by
  obtain ⟨n, hn, h⟩ := h
  exact .item hn h

theorem Blames.of_entries {tag : Tag} {entries : List (Node × Node)} {fault : Fault} (h : EntryBlames entries fault) :
    (Node.mapping tag entries).Blames fault := by
  obtain ⟨k, v, hn, h | h⟩ := h
  · exact .key hn h
  · exact .value hn h

theorem ItemBlames.head {n : Node} {fault : Fault} (rest : List Node) (h : n.Blames fault) :
    ItemBlames (n :: rest) fault := ⟨n, List.mem_cons_self, h⟩

theorem ItemBlames.tail {rest : List Node} {fault : Fault} (n : Node) (h : ItemBlames rest fault) :
    ItemBlames (n :: rest) fault := by
  obtain ⟨m, hm, h⟩ := h
  exact ⟨m, List.mem_cons_of_mem _ hm, h⟩

theorem EntryBlames.tail {rest : List (Node × Node)} {fault : Fault} (e : Node × Node) (h : EntryBlames rest fault) :
    EntryBlames (e :: rest) fault := by
  obtain ⟨k, v, hkv, h⟩ := h
  exact ⟨k, v, List.mem_cons_of_mem _ hkv, h⟩

/-- A value fails only if the tree is of the wrong shape, or a scalar in it does not fit its tag. -/
theorem raises_toValue_all :
    (∀ n : Node, Raises (fun fault => n.Blames fault) n.toValue) ∧
    (∀ entries, Raises (EntryBlames entries) (toEntries entries)) ∧
    (∀ n : Node, Raises (fun fault => n.Blames fault) n.toKey) ∧
    (∀ n : Node, Raises (fun fault => n.Blames fault) n.toMerged) ∧
    (∀ items, Raises (ItemBlames items) (toMergedAll items)) ∧
    (∀ items, Raises (ItemBlames items) (toPairs items)) ∧
    ∀ items, Raises (ItemBlames items) (toItems items) := by
  have htext := raises_text_all.2
  refine toValue.mutual_induct _ _ _ _ _ _ _ ?_ ?_ ?_ ?_ ?_ ?_ ?_ ?_ ?_ ?_ ?_ ?_ ?_ ?_ ?_ ?_ ?_ ?_ ?_ ?_ ?_ ?_ ?_ ?_ ?_ ?_ ?_ ?_
  -- Values: a scalar, a sequence of each kind, a mapping of each kind, and a node inside itself.
  · intro tag s fault h
    rw [toValue] at h
    exact .inr (.scalar h)
  · intro items ih
    rw [toValue]
    exact (ih.mono fun _ => .of_items).map
  · intro items ih
    rw [toValue]
    exact (ih.mono fun _ => .of_items).map
  · intro items ih
    rw [toValue]
    exact (ih.mono fun _ => .of_items).map
  · intro tag items hseq hordered hpairs
    rw [toValue]
    · exact .malformed
    · exact hseq
    · exact hordered
    · exact hpairs
  · intro entries ih
    rw [toValue]
    exact (ih.mono fun _ => .of_entries).map
  · intro entries ih
    rw [toValue]
    exact (ih.mono fun _ => .of_entries).map
  · intro entries
    rw [toValue]
    exact .bind ((htext entries).mono fun _ => False.elim) fun text h => .error (.time h rfl)
  · intro tag entries hmap hset htime
    rw [toValue]
    · refine .bind ((htext entries).mono fun _ => False.elim) fun text h fault hfault => ?_
      exact .inr (.default h hfault)
    · exact hmap
    · exact hset
    · exact htime
  · rw [toValue]
    exact .ok _
  · rw [toValue]
    exact .ok _
  -- Entries: none, those of a merge key, and others.
  · rw [toEntries]
    exact .ok _
  · intro k v rest hmerge ihmerged ihrest
    rw [toEntries, if_pos hmerge]
    refine .bind (ihmerged.mono fun _ h => ⟨k, v, List.mem_cons_self, .inr h⟩) fun brought _ => ?_
    exact .bind (ihrest.mono fun _ h => h.tail _) fun _ _ => .pure _
  · intro k v rest hmerge ihkey ihvalue ihrest
    rw [toEntries, if_neg hmerge]
    refine .bind (ihkey.mono fun _ h => ⟨k, v, List.mem_cons_self, .inl h⟩) fun key _ => ?_
    dsimp only
    split
    · exact .malformed
    · refine .bind (ihvalue.mono fun _ h => ⟨k, v, List.mem_cons_self, .inr h⟩) fun value _ => ?_
      exact .bind (ihrest.mono fun _ h => h.tail _) fun _ _ => .pure _
  -- Keys.
  · intro s
    rw [toKey]
    exact .ok _
  · intro entries
    rw [toKey]
    exact ((htext entries).mono fun _ => False.elim).map
  · intro n hvalue hmapping ih
    rw [toKey]
    · exact ih
    · exact hvalue
    · exact hmapping
  -- What a merge key brings: a mapping, or several.
  · intro tag entries ih
    rw [toMerged]
    exact (ih.mono fun _ => .of_entries).map
  · intro tag items ih
    rw [toMerged]
    exact ih.mono fun _ => .of_items
  · intro n hmapping hsequence
    rw [toMerged]
    · exact .malformed
    · exact hmapping
    · exact hsequence
  · rw [toMergedAll]
    exact .ok _
  · intro tag entries rest ihentries ihrest
    rw [toMergedAll]
    refine .bind (ihentries.mono fun _ h => .head _ (.of_entries h)) fun _ _ => ?_
    exact .bind (ihrest.mono fun _ h => h.tail _) fun _ _ => .pure _
  · intro head tail hmapping
    rw [toMergedAll]
    · exact .malformed
    · exact hmapping
  -- Pairs.
  · rw [toPairs]
    exact .ok _
  · intro tag k v rest ihkey ihvalue ihrest
    rw [toPairs]
    refine .bind (ihkey.mono fun _ h => .head _ (.key List.mem_cons_self h)) fun _ _ => ?_
    refine .bind (ihvalue.mono fun _ h => .head _ (.value List.mem_cons_self h)) fun _ _ => ?_
    exact .bind (ihrest.mono fun _ h => h.tail _) fun _ _ => .pure _
  · intro head tail hpair
    rw [toPairs]
    · exact .malformed
    · exact hpair
  -- Items.
  · rw [toItems]
    exact .ok _
  · intro n rest ihn ihrest
    rw [toItems]
    refine .bind (ihn.mono fun _ h => .head _ h) fun _ _ => ?_
    exact .bind (ihrest.mono fun _ h => h.tail _) fun _ _ => .pure _

end Node

end Values

/-- The value of a text is that of its tree. -/
theorem load_of_tokens {bytes : List UInt8} {ts : List Token}
    (h : ((charsOf? bytes).bind fun cs => (tokens cs).toOption) = some ts) :
    load bytes = (Node.ofTokens ts).bind fun node => match node with
      | some node => node.toValue
      | none => .ok .null := by
  obtain ⟨cs, hcs, htokens⟩ := Option.bind_eq_some_iff.mp h
  unfold load
  rw [hcs]
  cases hts : tokens cs with
  | error fault =>
    rw [hts] at htokens
    cases htokens
  | ok ts' =>
    rw [hts] at htokens
    cases htokens
    dsimp only
    rw [hts]
    rfl

/-- A text fails to be read only if it is malformed, if a token in it has a fault, or if a scalar of its tree, or a mapping
in the place of one, has a text that does not fit its tag. -/
theorem load_fault {bytes : List UInt8} {fault : Fault} (h : load bytes = .error fault) (hfault : fault ≠ .malformed) :
    ∃ cs, charsOf? bytes = some cs ∧ ((tokens cs = .error fault ∧ fault.OfToken) ∨
      ∃ ts node, tokens cs = .ok ts ∧ Node.ofTokens ts = .ok (some node) ∧ node.Blames fault) := by
  unfold load at h
  cases hcs : charsOf? bytes with
  | none =>
    rw [hcs] at h
    cases h
    exact absurd rfl hfault
  | some cs =>
    refine ⟨cs, rfl, ?_⟩
    rw [hcs] at h
    dsimp only at h
    cases htokens : tokens cs with
    | error fault' =>
      rw [htokens] at h
      cases h
      exact .inl ⟨rfl, (raises_tokens cs fault htokens).resolve_left hfault⟩
    | ok ts =>
      rw [htokens] at h
      change (Node.ofTokens ts).bind _ = _ at h
      cases hnode : Node.ofTokens ts with
      | error fault' =>
        rw [hnode] at h
        cases h
        exact absurd ((Node.raises_ofTokens ts fault hnode).resolve_right id) hfault
      | ok node =>
        rw [hnode] at h
        cases node with
        | none => cases h
        | some node => exact .inr ⟨ts, node, rfl, hnode, (Node.raises_toValue_all.1 node fault h).resolve_left hfault⟩

end CorpusShape.Yaml
