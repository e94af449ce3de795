import CorpusShape.Console.Markup
import CorpusShape.Proofs.PictureCodes
import Mathlib.Data.List.TakeWhile

/-!
# Texts that markup leaves alone

A text with markup is shown as it is written if and only if it is plain: no bracket starts a tag, no backslash stands
before a bracket, no code names a picture, and no character is a control that is never printed. Where a picture takes the
place of its name, colons are lost; everything else that markup does to a text only takes characters away. So it is
enough to count colons first, and then characters.
-/
namespace CorpusShape.Console
variable {cs : List Char}

/-- Whether no bracket of a text starts a tag. -/
def tagFree : List Char → Bool
  | [] => true
  | c :: rest => (c != '[' || (tagAfter? rest).isNone) && tagFree rest

/-- A text that says the same with and without markup. -/
structure IsPlain (cs : List Char) : Prop where
  tags : tagFree cs = true
  escapes : ¬['\\', '['] <:+: cs
  pictures : ∀ code ∈ codes none cs, picture? code = none
  controls : ∀ c ∈ cs, isStripped c = false

theorem tagFree_append {a : List Char} (ha : ∀ c ∈ a, c ≠ '[') (b : List Char) : tagFree (a ++ b) = tagFree b := by
  induction a with
  | nil => rfl
  | cons c a ih =>
    obtain ⟨hc, ha⟩ := List.forall_mem_cons.mp ha
    rw [List.cons_append, tagFree, ih ha, bne_iff_ne.mpr hc]
    rfl

/-- A text without tags, backslashes, codes and controls is plain. -/
theorem isPlain_of_all (htags : tagFree cs = true) (h : (cs.all fun c => c != '\\' && !isStripped c) = true)
    (hcodes : codes none cs = []) : IsPlain cs := by
  have hall : ∀ c ∈ cs, c ≠ '\\' ∧ isStripped c = false := by simpa using h
  exact ⟨htags, fun h => (hall '\\' (h.subset List.mem_cons_self)).1 rfl, by simp [hcodes], fun c hc => (hall c hc).2⟩

theorem drop_length_takeWhile (p : Char → Bool) (cs : List Char) :
    cs.drop (cs.takeWhile p).length = cs.dropWhile p := by
  calc cs.drop (cs.takeWhile p).length
      = (cs.takeWhile p ++ cs.dropWhile p).drop (cs.takeWhile p).length := by rw [List.takeWhile_append_dropWhile]
    _ = cs.dropWhile p := List.drop_left

/-- A tag ends with its bracket. -/
theorem exists_of_tagAfter? {inner : List Char} (h : tagAfter? cs = some inner) :
    ∃ rest, cs = inner ++ ']' :: rest := by
  cases cs with
  | nil => cases h
  | cons c rest =>
    rw [tagAfter?] at h
    split at h
    · dsimp only at h
      split at h
      · rename_i later hlater
        cases h
        refine ⟨later, ?_⟩
        rw [← hlater, List.cons_append, drop_length_takeWhile, List.takeWhile_append_dropWhile]
      · cases h
    · cases h

/-- Backslashes come first, and then what comes after them. -/
theorem exists_slashes_append (cs : List Char) :
    ∃ before, cs = before ++ cs.drop (slashes cs) ∧ before.length = slashes cs ∧ ∀ c ∈ before, c = '\\' := by
  refine ⟨cs.takeWhile (· == '\\'), ?_, rfl, fun c hc => ?_⟩
  · rw [slashes, drop_length_takeWhile, List.takeWhile_append_dropWhile]
  · have hslash := List.mem_takeWhile_imp hc
    exact beq_iff_eq.mp hslash

section Pieces

/-- The text of the pieces that are no tags. -/
def plainText : List Piece → List Char
  | [] => []
  | .plain cs :: rest => cs ++ plainText rest
  | .tag _ _ :: rest => plainText rest

def whole (cs : List Char) : List Piece := if cs.isEmpty then [] else [.plain cs]

theorem plainText_whole (cs : List Char) : plainText (whole cs) = cs := by
  cases cs <;> simp [whole, plainText]

theorem pieces_nil (fuel position : Nat) (before : List Char) : pieces fuel before position [] = whole before.reverse := by
  cases fuel <;> simp [pieces, whole]

theorem plainText_append (ps qs : List Piece) : plainText (ps ++ qs) = plainText ps ++ plainText qs := by
  induction ps with
  | nil => rfl
  | cons p ps ih =>
    cases p with
    | plain cs => simp [plainText, ih]
    | tag inner position => simp [plainText, ih]

theorem plainText_before (before : List Char) :
    plainText (if before.isEmpty then [] else [Piece.plain before.reverse]) = before.reverse := by
  cases before <;> simp [plainText]

theorem plainText_kept (n : Nat) :
    plainText (if n == 0 then [] else [Piece.plain (List.replicate n '\\')]) = List.replicate n '\\' := by
  cases n <;> simp [plainText]

/-- The pieces of a text from a place on, given the plain text before it: no tag stands there, and all of it is one
piece, or some of it is gone. -/
def Split (before cs : List Char) (ps : List Piece) : Prop :=
  (tagFree cs = true ∧ ps = whole (before.reverse ++ cs)) ∨
    (tagFree cs = false ∧ (plainText ps).Sublist (before.reverse ++ cs) ∧
      (plainText ps).length < before.length + cs.length)

theorem Split.sublist {before : List Char} {ps : List Piece} (h : Split before cs ps) :
    (plainText ps).Sublist (before.reverse ++ cs) := by
  rcases h with ⟨-, rfl⟩ | ⟨-, hsublist, -⟩
  · rw [plainText_whole]
  · exact hsublist

/-- Text that is not a tag may be taken to the text before. -/
theorem Split.cons {before a : List Char} {ps : List Piece} (h : Split (a.reverse ++ before) cs ps)
    (ha : tagFree (a ++ cs) = tagFree cs) : Split before (a ++ cs) ps := by
  have hreverse : (a.reverse ++ before).reverse ++ cs = before.reverse ++ (a ++ cs) := by simp
  rw [Split, hreverse] at h
  rcases h with ⟨hfree, hwhole⟩ | ⟨hfree, hsublist, hlt⟩
  · exact .inl ⟨ha.trans hfree, hwhole⟩
  · refine .inr ⟨ha.trans hfree, hsublist, ?_⟩
    rw [List.length_append, List.length_reverse] at hlt
    rw [List.length_append]
    omega

/-- A tag, with the backslashes before it and the text after it: its brackets are gone, or the backslash before it is. -/
theorem split_of_tag {before front inner rest : List Char} {later : List Piece} (position : Nat)
    (hfront : ∀ c ∈ front, c = '\\') (hinner : tagAfter? (inner ++ ']' :: rest) = some inner)
    (hlater : (plainText later).Sublist rest) :
    Split before (front ++ '[' :: (inner ++ ']' :: rest))
      (if front.length % 2 == 1 then
        (if before.isEmpty then [] else [Piece.plain before.reverse]) ++
          (if front.length / 2 == 0 then [] else [Piece.plain (List.replicate (front.length / 2) '\\')]) ++
          .plain ('[' :: inner ++ [']']) :: later
      else
        (if before.isEmpty then [] else [Piece.plain before.reverse]) ++
          (if front.length / 2 == 0 then [] else [Piece.plain (List.replicate (front.length / 2) '\\')]) ++
          .tag inner position :: later) := by
  have hfree : tagFree (front ++ '[' :: (inner ++ ']' :: rest)) = false := by
    rw [tagFree_append fun c hc => by rw [hfront c hc]; decide, tagFree, hinner]
    rfl
  have hkept : (List.replicate (front.length / 2) '\\').Sublist front := by
    rw [List.eq_replicate_of_mem hfront, List.replicate_sublist_replicate, List.length_replicate]
    exact Nat.div_le_self _ _
  have hshort := hlater.length_le
  refine .inr ⟨hfree, ?_⟩
  split
  · rename_i hodd
    rw [beq_iff_eq] at hodd
    rw [plainText_append, plainText_append, plainText, plainText_before, plainText_kept, List.append_assoc]
    constructor
    · refine (List.Sublist.refl _).append (hkept.append ?_)
      rw [List.cons_append, List.cons_append, List.append_assoc]
      exact ((List.Sublist.refl inner).append (hlater.cons_cons ']')).cons_cons '['
    · simp only [List.length_append, List.length_reverse, List.length_replicate, List.length_cons, List.length_nil]
      omega
  · rw [plainText_append, plainText_append, plainText, plainText_before, plainText_kept, List.append_assoc]
    constructor
    · refine (List.Sublist.refl _).append (hkept.append ?_)
      exact ((hlater.cons ']').trans (List.sublist_append_right inner _)).cons '['
    · simp only [List.length_append, List.length_reverse, List.length_replicate, List.length_cons]
      omega

theorem split_pieces {fuel : Nat} (before : List Char) (position : Nat) (hfuel : cs.length ≤ fuel) :
    Split before cs (pieces fuel before position cs) := by
  induction fuel generalizing before position cs with
  | zero =>
    obtain rfl := List.length_eq_zero_iff.mp (Nat.le_zero.mp hfuel)
    exact .inl ⟨rfl, by rw [pieces_nil, List.append_nil]⟩
  | succ fuel ih =>
    cases cs with
    | nil => exact .inl ⟨rfl, by rw [pieces_nil, List.append_nil]⟩
    | cons c rest =>
      obtain ⟨front, hcs, hlength, hslashes⟩ := exists_slashes_append (c :: rest)
      have hbrackets : ∀ d ∈ front, d ≠ '[' := fun d hd => by rw [hslashes d hd]; decide
      rw [pieces]
      dsimp only
      rw [← hlength] at hcs ⊢
      split
      · rename_i after hafter
        rw [hafter] at hcs
        split
        · rename_i inner hinner
          obtain ⟨rest', hrest⟩ := exists_of_tagAfter? hinner
          have hdrop : (c :: rest).drop (front.length + inner.length + 2) = rest' := by
            rw [hcs, hrest, Nat.add_assoc, List.drop_length_add_append, List.drop_succ_cons, List.drop_length_add_append]
            rfl
          have hshort : rest'.length ≤ fuel := by
            rw [hcs, hrest, List.length_append, List.length_cons, List.length_append, List.length_cons] at hfuel
            omega
          have hlater := (ih [] (position + (front.length + inner.length + 2)) hshort).sublist
          rw [hdrop, hcs, hrest]
          exact split_of_tag _ hslashes (hrest ▸ hinner) hlater
        · rename_i hnone
          have htake : (c :: rest).take (front.length + 1) = front ++ ['['] := by
            rw [hcs, List.take_length_add_append]
            rfl
          have hshort : after.length ≤ fuel := by
            rw [hcs, List.length_append, List.length_cons] at hfuel
            omega
          rw [htake, hcs, show front ++ '[' :: after = (front ++ ['[']) ++ after by simp]
          refine (ih _ _ hshort).cons ?_
          rw [List.append_assoc, tagFree_append hbrackets, List.singleton_append, tagFree, hnone]
          rfl
      · rename_i hother
        have htake : ∀ d ∈ (c :: rest).take (max front.length 1), d ≠ '[' := by
          rcases Nat.eq_zero_or_pos front.length with hzero | hpos
          · rw [hzero, Nat.zero_max, List.take_one, List.head?_cons]
            intro d hd hbracket
            rw [Option.toList_some, List.mem_singleton] at hd
            exact hother rest (by rw [hzero, List.drop_zero, ← hd, hbracket])
          · rw [Nat.max_eq_left hpos, hcs, List.take_left]
            exact hbrackets
        have hshort : ((c :: rest).drop (max front.length 1)).length ≤ fuel := by
          rw [List.length_drop]
          omega
        have hsplit := (ih (((c :: rest).take (max front.length 1)).reverse ++ before) (position + max front.length 1)
          hshort).cons (tagFree_append htake _)
        rwa [List.take_append_drop] at hsplit

end Pieces

section Shown

theorem unescape_sublist (cs : List Char) : (unescape cs).Sublist cs := by
  fun_induction unescape cs with
  | case1 rest ih => exact (ih.cons_cons '[').cons '\\'
  | case2 c rest _ ih => exact ih.cons_cons c
  | case3 => exact .slnil

theorem unescape_eq_self (h : ¬['\\', '['] <:+: cs) : unescape cs = cs := by
  fun_induction unescape cs with
  | case1 rest ih => exact absurd ⟨[], rest, rfl⟩ h
  | case2 c rest _ ih => rw [ih fun hrest => h (hrest.trans (List.suffix_cons c rest).isInfix)]
  | case3 => rfl

/-- Taking a backslash away makes a text shorter. -/
theorem not_infix_of_length_unescape (h : (unescape cs).length = cs.length) : ¬['\\', '['] <:+: cs := by
  fun_induction unescape cs with
  | case1 rest ih =>
    have hle := (unescape_sublist rest).length_le
    rw [List.length_cons, List.length_cons, List.length_cons] at h
    omega
  | case2 c rest hother ih =>
    intro hinfix
    rcases List.infix_cons_iff.mp hinfix with hprefix | hrest
    · obtain ⟨later, hlater⟩ := hprefix
      obtain ⟨rfl, rfl⟩ := List.cons.inj hlater
      exact hother later rfl rfl
    · exact ih (Nat.succ.inj h) hrest
  | case3 => simp

/-- What is shown of text that is no tag. -/
def visible (cs : List Char) : List Char := (withPictures none (unescape cs)).filter (!isStripped ·)

/-- No colons are added to a text, and if none is lost then none of its codes names a picture. -/
theorem count_visible (cs : List Char) :
    (visible cs).count ':' ≤ cs.count ':' ∧
      ((visible cs).count ':' = cs.count ':' → ∀ code ∈ codes none (unescape cs), picture? code = none) := by
  obtain ⟨hle, heq⟩ := count_withPictures none (unescape cs) List.not_mem_nil
  have hfilter : (visible cs).count ':' ≤ (withPictures none (unescape cs)).count ':' := List.filter_sublist.count_le _
  have hunescape : (unescape cs).count ':' ≤ cs.count ':' := (unescape_sublist cs).count_le _
  rw [pending, List.nil_append] at hle heq
  exact ⟨by omega, fun htotal => heq (by omega)⟩

theorem visible_eq_filter (h : (visible cs).count ':' = cs.count ':') :
    visible cs = (unescape cs).filter (!isStripped ·) := by
  rw [visible, withPictures_eq ((count_visible cs).2 h), pending, List.nil_append]

theorem visible_sublist (h : (visible cs).count ':' = cs.count ':') : (visible cs).Sublist cs := by
  rw [visible_eq_filter h]
  exact List.filter_sublist.trans (unescape_sublist cs)

theorem IsPlain.visible_eq (h : IsPlain cs) : visible cs = cs := by
  rw [visible, unescape_eq_self h.escapes, withPictures_eq h.pictures, pending, List.nil_append, List.filter_eq_self]
  intro c hc
  rw [h.controls c hc]
  rfl

theorem isPlain_of_visible_eq (htags : tagFree cs = true) (h : visible cs = cs) : IsPlain cs := by
  have hcolons : (visible cs).count ':' = cs.count ':' := by rw [h]
  have hfilter := visible_eq_filter hcolons
  have hlength : (unescape cs).length = cs.length := by
    refine Nat.le_antisymm (unescape_sublist cs).length_le ?_
    calc cs.length = (visible cs).length := by rw [h]
      _ ≤ (unescape cs).length := by rw [hfilter]; exact List.length_filter_le _ _
  have hescapes := not_infix_of_length_unescape hlength
  have hpictures := (count_visible cs).2 hcolons
  rw [unescape_eq_self hescapes] at hpictures hfilter
  refine ⟨htags, hescapes, hpictures, fun c hc => ?_⟩
  have hall := List.filter_eq_self.mp (hfilter.symm.trans h) c hc
  simpa using hall

theorem shownPieces_plain (open_ : List String) (cs : List Char) (rest : List Piece) :
    shownPieces open_ (.plain cs :: rest) = (shownPieces open_ rest).map (visible cs ++ ·) := by
  rw [shownPieces]
  cases shownPieces open_ rest <;> rfl

theorem shownPieces_whole (open_ : List String) (cs : List Char) :
    shownPieces open_ (whole cs) = .ok (visible cs) := by
  cases cs with
  | nil => rfl
  | cons c cs =>
    have hwhole : whole (c :: cs) = [.plain (c :: cs)] := rfl
    rw [hwhole, shownPieces_plain, shownPieces, Except.map, List.append_nil]

/-- No colons are shown but those of the text that is no tag; if all of them are, then only characters were taken away. -/
theorem count_shownPieces {open_ : List String} {ps : List Piece} {out : List Char}
    (h : shownPieces open_ ps = .ok out) :
    out.count ':' ≤ (plainText ps).count ':' ∧
      (out.count ':' = (plainText ps).count ':' → out.Sublist (plainText ps)) := by
  induction ps generalizing open_ out with
  | nil =>
    cases h
    exact ⟨Nat.le_refl _, fun _ => .slnil⟩
  | cons p ps ih =>
    cases p with
    | plain cs =>
      rw [shownPieces_plain] at h
      cases hrest : shownPieces open_ ps with
      | error e =>
        rw [hrest] at h
        cases h
      | ok rest =>
        rw [hrest] at h
        cases h
        obtain ⟨hle, hsublist⟩ := ih hrest
        have hvisible := (count_visible cs).1
        rw [plainText, List.count_append, List.count_append]
        refine ⟨Nat.add_le_add hvisible hle, fun htotal => ?_⟩
        exact (visible_sublist (by omega)).append (hsublist (by omega))
    | tag cs position =>
      rw [plainText]
      unfold shownPieces at h
      dsimp only at h
      split at h
      · split at h
        · split at h
          · exact ih h
          · cases h
        · split at h
          · exact ih h
          · cases h
      · exact ih h

/-- A text is shown as it is written if and only if it is plain. -/
theorem shownPieces_pieces_iff {fuel : Nat} (open_ : List String) (position : Nat) (hfuel : cs.length ≤ fuel) :
    shownPieces open_ (pieces fuel [] position cs) = .ok cs ↔ IsPlain cs := by
  have hsplit := split_pieces [] position hfuel
  rw [Split, List.reverse_nil, List.nil_append, List.length_nil, Nat.zero_add] at hsplit
  constructor
  · intro h
    rcases hsplit with ⟨hfree, hwhole⟩ | ⟨-, hsublist, hlt⟩
    · rw [hwhole, shownPieces_whole] at h
      exact isPlain_of_visible_eq hfree (Except.ok.inj h)
    · obtain ⟨hle, hall⟩ := count_shownPieces h
      have hlength := (hall (Nat.le_antisymm hle (hsublist.count_le _))).length_le
      omega
  · intro h
    rcases hsplit with ⟨-, hwhole⟩ | ⟨hfree, -⟩
    · rw [hwhole, shownPieces_whole, h.visible_eq]
    · rw [h.tags] at hfree
      cases hfree

/-- A tag stands in the text. -/
theorem infix_of_tag_mem_pieces {fuel position place : Nat} {before inner : List Char}
    (h : Piece.tag inner place ∈ pieces fuel before position cs) : '[' :: inner <:+: cs := by
  have hwhole : ∀ front : List Char, Piece.tag inner place ∉ (if front.isEmpty then [] else [Piece.plain front.reverse]) := by
    intro front
    split <;> simp
  induction fuel generalizing before position cs with
  | zero =>
    cases cs with
    | nil => exact absurd h (hwhole before)
    | cons c rest => simp [pieces] at h
  | succ fuel ih =>
    cases cs with
    | nil => exact absurd h (hwhole before)
    | cons c rest =>
      have hkept : ∀ n, Piece.tag inner place ∉ (if n == 0 then [] else [Piece.plain (List.replicate n '\\')]) := by
        intro n
        split <;> simp
      rw [pieces] at h
      dsimp only at h
      split at h
      · rename_i after hafter
        have hsuffix : '[' :: after <:+ c :: rest := hafter ▸ List.drop_suffix _ _
        split at h
        · rename_i inner' hinner
          obtain ⟨later, hlater⟩ := exists_of_tagAfter? hinner
          split at h
          all_goals
            rw [List.mem_append, List.mem_append, List.mem_cons] at h
            rcases h with (h | h) | h | h
            · exact absurd h (hwhole before)
            · exact absurd h (hkept _)
          · cases h
          · exact (ih h).trans (List.drop_suffix _ _).isInfix
          · cases h
            exact (List.prefix_append _ _).isInfix.trans (hlater ▸ hsuffix.isInfix)
          · exact (ih h).trans (List.drop_suffix _ _).isInfix
        · exact (ih h).trans ((List.suffix_cons _ _).trans hsuffix).isInfix
      · exact (ih h).trans (List.drop_suffix _ _).isInfix

/-- Where nothing is closed, nothing is closed that was not open. -/
theorem exists_shownPieces {ps : List Piece} (h : ∀ inner place, Piece.tag inner place ∈ ps → inner.head? ≠ some '/')
    (open_ : List String) : ∃ out, shownPieces open_ ps = .ok out := by
  induction ps generalizing open_ with
  | nil => exact ⟨[], rfl⟩
  | cons p ps ih =>
    have hrest := ih fun inner place hmem => h inner place (List.mem_cons_of_mem _ hmem)
    cases p with
    | plain cs =>
      obtain ⟨out, hout⟩ := hrest open_
      exact ⟨visible cs ++ out, by rw [shownPieces_plain, hout]; rfl⟩
    | tag cs place =>
      have hopening : ∀ closing, tagName cs ≠ '/' :: closing := by
        intro closing hname
        have hhead : '/' :: closing <+: cs := hname ▸ List.takeWhile_prefix _
        obtain ⟨later, rfl⟩ := hhead
        exact h _ place List.mem_cons_self rfl
      obtain ⟨out, hout⟩ := hrest (styleName (tagName cs) :: open_)
      refine ⟨out, ?_⟩
      unfold shownPieces
      dsimp only
      split
      · rename_i closing hname
        exact absurd hname (hopening closing)
      · exact hout

theorem pieces_label (fuel : Nat) (cs : List Char) :
    pieces (fuel + 17) [] 0 ("[red]Analyzer error:[/red]".toList ++ cs) =
      .tag "red".toList 0 :: .plain "Analyzer error:".toList :: .tag "/red".toList 20 :: pieces fuel [] 26 cs := by
  simp [pieces, slashes, tagAfter?, startsTag]

/-- A tag that is closed again shows nothing. -/
theorem shownPieces_label (ps : List Piece) :
    shownPieces [] (.tag "red".toList 0 :: .plain "Analyzer error:".toList :: .tag "/red".toList 20 :: ps) =
      (shownPieces [] ps).map ("Analyzer error:".toList ++ ·) := by
  have hopen : ∀ qs, shownPieces [] (.tag "red".toList 0 :: qs) = shownPieces ["red"] qs := fun _ => rfl
  have hclose : shownPieces ["red"] (.tag "/red".toList 20 :: ps) = shownPieces [] ps := rfl
  have hvisible : visible "Analyzer error:".toList = "Analyzer error:".toList := by decide
  rw [hopen, shownPieces_plain, hclose, hvisible]

/-- A label in colour is shown without its tags, and what comes after it by the rules. -/
theorem shown_label (text : String) :
    shown ("[red]Analyzer error:[/red] " ++ text) =
      (shownPieces [] (pieces (text.toList.length + 11) [] 26 (' ' :: text.toList))).map fun out =>
        String.ofList ("Analyzer error:".toList ++ out) := by
  have hlist : ("[red]Analyzer error:[/red] " ++ text).toList =
      "[red]Analyzer error:[/red]".toList ++ ' ' :: text.toList := by simp
  have hlength : ("[red]Analyzer error:[/red]".toList ++ ' ' :: text.toList).length + 1 =
      text.toList.length + 11 + 17 := by simp
  unfold shown
  dsimp only
  rw [hlist, hlength, pieces_label, shownPieces_label]
  cases shownPieces [] (pieces (text.toList.length + 11) [] 26 (' ' :: text.toList)) <;> rfl

theorem isPlain_cons_space_iff : IsPlain (' ' :: cs) ↔ IsPlain cs := by
  constructor
  · rintro ⟨htags, hescapes, hpictures, hcontrols⟩
    exact ⟨by simpa [tagFree] using htags, fun h => hescapes (h.trans (List.suffix_cons _ _).isInfix), hpictures,
      (List.forall_mem_cons.mp hcontrols).2⟩
  · rintro ⟨htags, hescapes, hpictures, hcontrols⟩
    refine ⟨by simpa [tagFree] using htags, fun h => ?_, hpictures, List.forall_mem_cons.mpr ⟨by decide, hcontrols⟩⟩
    rcases List.infix_cons_iff.mp h with ⟨later, hlater⟩ | h
    · cases hlater
    · exact hescapes h

/-- The text of a failure is shown as it is written if and only if it is plain. -/
theorem shown_failure_iff (text : String) :
    shown ("[red]Analyzer error:[/red] " ++ text) = .ok ("Analyzer error: " ++ text) ↔ IsPlain text.toList := by
  have htext : "Analyzer error: " ++ text = String.ofList ("Analyzer error:".toList ++ ' ' :: text.toList) := by
    apply String.toList_inj.mp
    simp
  have hfuel : (' ' :: text.toList).length ≤ text.toList.length + 11 := by simp
  rw [← isPlain_cons_space_iff, ← shownPieces_pieces_iff [] 26 hfuel, shown_label, htext]
  cases shownPieces [] (pieces (text.toList.length + 11) [] 26 (' ' :: text.toList)) with
  | error e =>
    constructor
    · intro h
      cases h
    · intro h
      cases h
  | ok out =>
    rw [Except.map, Except.ok.injEq, Except.ok.injEq, String.ofList_inj, List.append_cancel_left_eq]

/-- The text of a failure is shown in some form if no bracket of it closes a tag. -/
theorem exists_shown_failure {text : String} (h : ¬['[', '/'] <:+: text.toList) :
    ∃ out, shown ("[red]Analyzer error:[/red] " ++ text) = .ok out := by
  have hspace : ¬['[', '/'] <:+: ' ' :: text.toList := by
    intro hinfix
    rcases List.infix_cons_iff.mp hinfix with ⟨later, hlater⟩ | hinfix
    · cases hlater
    · exact h hinfix
  have hopening : ∀ inner place, Piece.tag inner place ∈ pieces (text.toList.length + 11) [] 26 (' ' :: text.toList) →
      inner.head? ≠ some '/' := by
    intro inner place hmem hhead
    obtain ⟨rest, rfl⟩ := List.head?_eq_some_iff.mp hhead
    exact hspace ((List.prefix_append ['[', '/'] rest).isInfix.trans (infix_of_tag_mem_pieces hmem))
  obtain ⟨out, hout⟩ := exists_shownPieces hopening []
  exact ⟨_, by rw [shown_label, hout]; rfl⟩

end Shown

end CorpusShape.Console
