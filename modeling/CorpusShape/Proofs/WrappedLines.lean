import CorpusShape.Console.Wrap
import Mathlib.Data.List.Basic
import Mathlib.Data.List.TakeWhile

/-!
# Lines that hold a text

A text without tabs that is broken into lines of at least two cells stays whole: read one after the other, the lines
give the text back, but for blanks where a line ends. The proof follows the filling of lines, word by word: what was
taken so far stands in the lines, and every line fits once the blanks at its end are gone.
-/
namespace CorpusShape.Console
variable {width : Nat} {cs word : List Char} {f : Filling}

/-- The lines give the text, but for blanks at their ends. -/
inductive Laid : List Char → List (List Char) → Prop
  | nil : Laid [] []
  | cons {line blanks rest : List Char} {lines : List (List Char)} (hblanks : ∀ c ∈ blanks, isSpace c = true)
      (hrest : Laid rest lines) : Laid (line ++ blanks ++ rest) (line :: lines)

namespace Laid
variable {a b blanks : List Char} {ls ms : List (List Char)}

theorem append (ha : Laid a ls) (hb : Laid b ms) : Laid (a ++ b) (ls ++ ms) := by
  induction ha with
  | nil => exact hb
  | cons hblanks _ ih =>
    rw [List.append_assoc]
    exact .cons hblanks ih

/-- Blanks after the last line may be dropped too. -/
theorem blanks_right (ha : Laid a ls) (hls : ls ≠ []) (hblanks : ∀ c ∈ blanks, isSpace c = true) :
    Laid (a ++ blanks) ls := by
  induction ha with
  | nil => exact absurd rfl hls
  | @cons line bs rest lines hbs hrest ih =>
    cases hrest with
    | nil =>
      rw [List.append_nil, List.append_assoc, ← List.append_nil (line ++ (bs ++ blanks))]
      exact .cons (List.forall_mem_append.mpr ⟨hbs, hblanks⟩) .nil
    | cons hblanks' hrest' =>
      rw [List.append_assoc]
      exact .cons hbs (ih (List.cons_ne_nil _ _))

end Laid

section Cells

theorem foldl_cells (n : Nat) (cs : List Char) : cs.foldl (fun n c => n + cells c) n = n + cellLength cs := by
  unfold cellLength
  induction cs generalizing n with
  | nil => rfl
  | cons c cs ih =>
    rw [List.foldl_cons, List.foldl_cons, ih, ih (0 + cells c)]
    omega

@[simp] theorem cellLength_nil : cellLength [] = 0 := rfl

@[simp] theorem cellLength_append (a b : List Char) : cellLength (a ++ b) = cellLength a + cellLength b := by
  unfold cellLength
  rw [List.foldl_append, foldl_cells, cellLength]

@[simp] theorem cellLength_cons (c : Char) (cs : List Char) : cellLength (c :: cs) = cells c + cellLength cs := by
  rw [cellLength, List.foldl_cons, foldl_cells, Nat.zero_add]

theorem cells_le_two (c : Char) : cells c ≤ 2 := by
  unfold cells
  dsimp only
  split_ifs <;> omega

end Cells

section Trimming

/-- What is trimmed off a text is blank. -/
theorem exists_trimRight_append (cs : List Char) :
    ∃ blanks, cs = trimRight cs ++ blanks ∧ ∀ c ∈ blanks, isSpace c = true := by
  refine ⟨(cs.reverse.takeWhile isSpace).reverse, ?_, fun c hc => ?_⟩
  · rw [trimRight, ← List.reverse_append, List.takeWhile_append_dropWhile, List.reverse_reverse]
  · exact List.mem_takeWhile_imp (List.mem_reverse.mp hc)

theorem trimRight_eq_nil (h : ∀ c ∈ cs, isSpace c = true) : trimRight cs = [] := by
  rw [trimRight, List.reverse_eq_nil_iff, List.dropWhile_eq_nil_iff]
  intro c hc
  exact h c (List.mem_reverse.mp hc)

theorem trimRight_append_of_word (cs : List Char) (hword : ∃ c ∈ word, isSpace c = false) :
    trimRight (cs ++ word) = cs ++ trimRight word := by
  obtain ⟨c, hc, hspace⟩ := hword
  have hne : (word.reverse.dropWhile isSpace) ≠ [] := by
    intro hnil
    rw [List.dropWhile_eq_nil_iff] at hnil
    rw [hnil c (List.mem_reverse.mpr hc)] at hspace
    cases hspace
  rw [trimRight, trimRight, List.reverse_append, List.dropWhile_append, if_neg (by simpa using hne),
    List.reverse_append, List.reverse_reverse]

theorem cellLength_trimRight_le (cs : List Char) : cellLength (trimRight cs) ≤ cellLength cs := by
  obtain ⟨blanks, hcs, -⟩ := exists_trimRight_append cs
  calc cellLength (trimRight cs) ≤ cellLength (trimRight cs) + cellLength blanks := Nat.le_add_right _ _
    _ = cellLength cs := by rw [← cellLength_append, ← hcs]

end Trimming

section Fitting

def cutStep (width : Nat) : List Char × Nat → Char → List Char × Nat
  | (kept, room), c => if room + cells c ≤ width then (kept ++ [c], room + cells c) else (kept, width + 1)

theorem foldl_cutStep_of_le {room : Nat} (kept : List Char) (h : room + cellLength cs ≤ width) :
    cs.foldl (cutStep width) (kept, room) = (kept ++ cs, room + cellLength cs) := by
  induction cs generalizing kept room with
  | nil => simp
  | cons c cs ih =>
    rw [cellLength_cons] at h ⊢
    have hc : room + cells c ≤ width := by omega
    rw [List.foldl_cons, cutStep, if_pos hc, ih _ (by omega), List.append_assoc, Nat.add_assoc]
    rfl

/-- Cutting keeps a first part. -/
theorem foldl_cutStep_eq (width room : Nat) (kept cs : List Char) :
    ∃ n, (cs.foldl (cutStep width) (kept, room)).1 = kept ++ cs.take n := by
  induction cs generalizing kept room with
  | nil => exact ⟨0, by simp⟩
  | cons c cs ih =>
    rw [List.foldl_cons, cutStep]
    by_cases hc : room + cells c ≤ width
    · rw [if_pos hc]
      obtain ⟨n, hn⟩ := ih (room + cells c) (kept ++ [c])
      exact ⟨n + 1, by rw [hn, List.append_assoc]; rfl⟩
    · rw [if_neg hc]
      -- Nothing is taken any more.
      have hfull : ∀ rest : List Char, rest.foldl (cutStep width) (kept, width + 1) = (kept, width + 1) := by
        intro rest
        induction rest with
        | nil => rfl
        | cons d rest ih => rw [List.foldl_cons, cutStep, if_neg (by omega), ih]
      exact ⟨0, by rw [hfull]; simp⟩

/-- A line that fits but for blanks at its end loses only such blanks. -/
theorem exists_fit_append (h : cellLength (trimRight cs) ≤ width) :
    ∃ blanks, cs = fit width cs ++ blanks ∧ ∀ c ∈ blanks, isSpace c = true := by
  obtain ⟨blanks, hcs, hblanks⟩ := exists_trimRight_append cs
  -- First some of the blanks go, by their number; the rest is cut by its cells.
  have htake : ∃ n, cs.take (cs.length - min (cs.length - (trimRight cs).length) (cs.length - width)) =
      trimRight cs ++ blanks.take n := by
    refine ⟨blanks.length - min (cs.length - (trimRight cs).length) (cs.length - width), ?_⟩
    have hlength : cs.length = (trimRight cs).length + blanks.length := by
      rw [← List.length_append, ← hcs]
    generalize hm : min (cs.length - (trimRight cs).length) (cs.length - width) = m
    have hm' : m ≤ blanks.length := by omega
    have hrest : cs.length - m = (trimRight cs).length + (blanks.length - m) := by omega
    calc cs.take (cs.length - m)
        = (trimRight cs ++ blanks).take ((trimRight cs).length + (blanks.length - m)) := by rw [← hcs, hrest]
      _ = trimRight cs ++ blanks.take (blanks.length - m) := List.take_length_add_append _
  obtain ⟨n, hn⟩ := htake
  have hfit : ∃ k, fit width cs = trimRight cs ++ (blanks.take n).take k := by
    unfold fit
    dsimp only
    rw [hn]
    split
    · exact ⟨(blanks.take n).length, by rw [List.take_length]⟩
    · change ∃ k, ((trimRight cs ++ blanks.take n).foldl (cutStep width) ([], 0)).1 = _
      rw [List.foldl_append, foldl_cutStep_of_le [] (by rwa [Nat.zero_add])]
      exact foldl_cutStep_eq width _ _ _
  obtain ⟨k, hk⟩ := hfit
  refine ⟨blanks.drop (min k n), ?_, fun c hc => hblanks c (List.mem_of_mem_drop hc)⟩
  rw [hk, List.take_take, List.append_assoc, List.take_append_drop, ← hcs]

theorem laid_map_fit {ls : List (List Char)} (h : ∀ line ∈ ls, cellLength (trimRight line) ≤ width) :
    Laid ls.flatten (ls.map (fit width)) := by
  induction ls with
  | nil => exact .nil
  | cons line ls ih =>
    obtain ⟨hline, hls⟩ := List.forall_mem_cons.mp h
    obtain ⟨blanks, hcs, hblanks⟩ := exists_fit_append hline
    rw [List.flatten_cons, List.map_cons]
    conv_lhs => rw [hcs]
    exact .cons hblanks (ih hls)

end Fitting

section Words

/-- A text in which a word starts, or none does. -/
def StartsWord (cs : List Char) : Prop := ∀ c ∈ cs.head?, isSpace c = false

theorem startsWord_dropWhile (cs : List Char) : StartsWord (cs.dropWhile isSpace) := by
  intro c hc
  have hhead := List.head?_dropWhile_not isSpace cs
  rw [Option.mem_def.mp hc] at hhead
  exact hhead

/-- The words that are read from a text make it up, and none of them is blank. -/
theorem words_go_spec {fuel : Nat} (hfuel : cs.length ≤ fuel) (hstart : StartsWord cs) :
    (words.go fuel [] cs).flatten = cs ∧ ∀ word ∈ words.go fuel [] cs, ∃ c ∈ word, isSpace c = false := by
  induction fuel generalizing cs with
  | zero =>
    obtain rfl := List.length_eq_zero_iff.mp (Nat.le_zero.mp hfuel)
    exact ⟨rfl, by simp [words.go]⟩
  | succ fuel ih =>
    cases cs with
    | nil => exact ⟨rfl, by simp [words.go]⟩
    | cons c tail =>
      have hc : isSpace c = false := hstart c rfl
      have hgo : words.go (fuel + 1) [] (c :: tail) =
          ((c :: tail).takeWhile (!isSpace ·) ++ ((c :: tail).dropWhile (!isSpace ·)).takeWhile isSpace) ::
            words.go fuel [] (((c :: tail).dropWhile (!isSpace ·)).dropWhile isSpace) := by
        simp [words.go]
      have hshort : (((c :: tail).dropWhile (!isSpace ·)).dropWhile isSpace).length ≤ fuel := by
        have hword : ((c :: tail).dropWhile (!isSpace ·)).length ≤ tail.length := by
          rw [List.dropWhile_cons, if_pos (by rw [hc]; rfl)]
          exact (List.dropWhile_sublist _).length_le
        calc _ ≤ ((c :: tail).dropWhile (!isSpace ·)).length := (List.dropWhile_sublist _).length_le
          _ ≤ tail.length := hword
          _ ≤ fuel := Nat.le_of_succ_le_succ hfuel
      obtain ⟨hflatten, hwords⟩ := ih hshort (startsWord_dropWhile _)
      rw [hgo]
      refine ⟨?_, List.forall_mem_cons.mpr ⟨⟨c, ?_, hc⟩, hwords⟩⟩
      · rw [List.flatten_cons, hflatten, List.append_assoc, List.takeWhile_append_dropWhile,
          List.takeWhile_append_dropWhile]
      · simp [hc]

theorem words_go_leading {fuel : Nat} (leading : List Char) (hfuel : cs.length ≤ fuel) (hcs : cs ≠ []) :
    ∃ word rest, words.go fuel [] cs = word :: rest ∧ words.go fuel leading cs = (leading ++ word) :: rest := by
  obtain ⟨c, tail, rfl⟩ := List.exists_cons_of_ne_nil hcs
  cases fuel with
  | zero => cases hfuel
  | succ fuel => exact ⟨_, _, rfl, by simp only [words.go, List.nil_append, List.append_assoc]⟩

theorem words_eq_nil_or (cs : List Char) :
    (words cs = [] ∧ ∀ c ∈ cs, isSpace c = true) ∨
      (words cs ≠ [] ∧ (words cs).flatten = cs ∧ ∀ word ∈ words cs, ∃ c ∈ word, isSpace c = false) := by
  have hfuel : (cs.dropWhile isSpace).length ≤ cs.length := (List.dropWhile_sublist _).length_le
  rcases hrest : cs.dropWhile isSpace with _ | ⟨c, tail⟩
  · refine .inl ⟨?_, List.dropWhile_eq_nil_iff.mp hrest⟩
    unfold words
    rw [hrest]
    cases cs.length <;> rfl
  · refine .inr ?_
    obtain ⟨hflatten, hwords⟩ := words_go_spec hfuel (startsWord_dropWhile cs)
    obtain ⟨word, rest, hgo, hleading⟩ := words_go_leading (cs.takeWhile isSpace) hfuel (by rw [hrest]; simp)
    rw [hgo] at hflatten hwords
    obtain ⟨⟨d, hd, hspace⟩, hothers⟩ := List.forall_mem_cons.mp hwords
    unfold words
    rw [hleading]
    refine ⟨List.cons_ne_nil _ _, ?_, List.forall_mem_cons.mpr ⟨⟨d, List.mem_append_right _ hd, hspace⟩, hothers⟩⟩
    rw [List.flatten_cons, List.append_assoc, ← List.flatten_cons, hflatten, List.takeWhile_append_dropWhile]

end Words

section Chopping

/-- One step of cutting a word: the pieces so far, the piece at hand, and its cells. -/
def chopStep (width : Nat) : List (List Char) × List Char × Nat → Char → List (List Char) × List Char × Nat
  | (pieces, piece, room), c =>
    if room + cells c > width then (pieces ++ [piece.reverse], [c], cells c) else (pieces, c :: piece, room + cells c)

/-- What was taken stands in the pieces, none of which is too long. -/
structure Chopped (width : Nat) (cs : List Char) (state : List (List Char) × List Char × Nat) : Prop where
  text : state.1.flatten ++ state.2.1.reverse = cs
  room : state.2.2 = cellLength state.2.1.reverse
  short : state.2.2 ≤ width
  pieces : ∀ piece ∈ state.1, cellLength piece ≤ width

theorem Chopped.step {state : List (List Char) × List Char × Nat} (h : Chopped width cs state) (hwidth : 2 ≤ width)
    (c : Char) : Chopped width (cs ++ [c]) (chopStep width state c) := by
  obtain ⟨pieces, piece, room⟩ := state
  obtain ⟨htext, hroom, hshort, hpieces⟩ := h
  dsimp only at htext hroom hshort hpieces
  have hc := cells_le_two c
  by_cases hlong : room + cells c > width
  · rw [chopStep, if_pos hlong]
    refine ⟨by simp [← htext], by simp, by dsimp only; omega, ?_⟩
    rw [List.forall_mem_append, List.forall_mem_singleton]
    exact ⟨hpieces, hroom ▸ hshort⟩
  · rw [chopStep, if_neg hlong]
    exact ⟨by simp [← htext], by simp [hroom], by dsimp only; omega, hpieces⟩

theorem chopped_foldl (hwidth : 2 ≤ width) {state : List (List Char) × List Char × Nat} (h : Chopped width cs state)
    (later : List Char) : Chopped width (cs ++ later) (later.foldl (chopStep width) state) := by
  induction later generalizing cs state with
  | nil => rwa [List.append_nil]
  | cons c later ih =>
    have hrest := ih (h.step hwidth c)
    rwa [List.append_assoc] at hrest

theorem chop_spec (hwidth : 2 ≤ width) (cs : List Char) :
    (chop width cs).flatten = cs ∧ ∀ piece ∈ chop width cs, cellLength piece ≤ width := by
  have hstart : Chopped width [] ([], [], 0) := ⟨rfl, rfl, Nat.zero_le _, by simp⟩
  obtain ⟨htext, hroom, hshort, hpieces⟩ := chopped_foldl hwidth hstart cs
  have hchop : chop width cs = (cs.foldl (chopStep width) ([], [], 0)).1 ++
      [(cs.foldl (chopStep width) ([], [], 0)).2.1.reverse] := rfl
  rw [hchop, List.flatten_append, List.flatten_singleton, htext, List.forall_mem_append, List.forall_mem_singleton]
  exact ⟨rfl, hpieces, hroom ▸ hshort⟩

end Chopping

section Filling

/-- What was taken stands in the lines, and every line fits but for blanks at its end. -/
structure Filled (width : Nat) (cs : List Char) (f : Filling) : Prop where
  text : f.full.flatten ++ f.line = cs
  room : f.room = cellLength f.line
  full : ∀ line ∈ f.full, cellLength (trimRight line) ≤ width
  line : cellLength (trimRight f.line) ≤ width

theorem Filled.break_ (h : Filled width cs f) {piece : List Char} (hpiece : cellLength (trimRight piece) ≤ width) :
    Filled width (cs ++ piece) (f.break_ piece) := by
  unfold Filling.break_
  split
  · rename_i hstart
    rw [Filling.isStart, Bool.and_eq_true, List.isEmpty_iff, List.isEmpty_iff] at hstart
    have htext := h.text
    rw [hstart.1, hstart.2] at htext
    exact ⟨by simp [← htext, hstart.1], rfl, h.full, hpiece⟩
  · refine ⟨by simp [← h.text], rfl, ?_, hpiece⟩
    rw [List.forall_mem_append, List.forall_mem_singleton]
    exact ⟨h.full, h.line⟩

theorem Filled.foldl_break_ (h : Filled width cs f) {pieces : List (List Char)}
    (hpieces : ∀ piece ∈ pieces, cellLength piece ≤ width) :
    Filled width (cs ++ pieces.flatten) (pieces.foldl Filling.break_ f) := by
  induction pieces generalizing cs f with
  | nil => simpa using h
  | cons piece pieces ih =>
    obtain ⟨hpiece, hothers⟩ := List.forall_mem_cons.mp hpieces
    have hrest := ih (h.break_ ((cellLength_trimRight_le piece).trans hpiece)) hothers
    rwa [List.append_assoc] at hrest

theorem Filled.put (hwidth : 2 ≤ width) (h : Filled width cs f) (hword : ∃ c ∈ word, isSpace c = false) :
    Filled width (cs ++ word) (f.put width word) := by
  unfold Filling.put
  dsimp only
  split
  · rename_i hfits
    refine ⟨by simp [← h.text], by simp [h.room], h.full, ?_⟩
    rw [trimRight_append_of_word f.line hword, cellLength_append, ← h.room]
    exact hfits
  · rename_i hfits
    split
    · obtain ⟨hflatten, hpieces⟩ := chop_spec hwidth word
      have hrest := h.foldl_break_ hpieces
      rwa [hflatten] at hrest
    · rename_i hshort
      split
      · exact h.break_ (Nat.le_of_not_lt hshort)
      · -- An empty line has room for every word that fits at all.
        rename_i hempty
        have hroom : f.room = 0 := by
          rw [Bool.and_eq_true, bne_iff_ne, Bool.not_eq_true', not_and_or, not_not, Bool.not_eq_false] at hempty
          rcases hempty with hroom | hstart
          · exact hroom
          · rw [Filling.isStart, Bool.and_eq_true, List.isEmpty_iff, List.isEmpty_iff] at hstart
            rw [h.room, hstart.2, cellLength_nil]
        omega

theorem filled_foldl_put (hwidth : 2 ≤ width) (h : Filled width cs f) {ws : List (List Char)}
    (hwords : ∀ word ∈ ws, ∃ c ∈ word, isSpace c = false) :
    Filled width (cs ++ ws.flatten) (ws.foldl (Filling.put width) f) := by
  induction ws generalizing cs f with
  | nil => simpa using h
  | cons word ws ih =>
    obtain ⟨hword, hothers⟩ := List.forall_mem_cons.mp hwords
    have hrest := ih (h.put hwidth hword) hothers
    rwa [List.append_assoc] at hrest

end Filling

section Lines

theorem wrapLine_eq_of_blank (htab : '\t' ∉ cs) (hnone : words cs = []) : wrapLine width cs = [fit width cs] := by
  have htabs : (if cs.contains '\t' then expandTabs 0 cs else cs) = cs := if_neg (by simpa using htab)
  unfold wrapLine
  rw [htabs]
  exact if_pos (by rw [hnone]; rfl)

theorem wrapLine_eq_of_words (htab : '\t' ∉ cs) (hsome : words cs ≠ []) :
    wrapLine width cs = (((words cs).foldl (Filling.put width) {}).full ++
      [((words cs).foldl (Filling.put width) {}).line]).map (fit width) := by
  have htabs : (if cs.contains '\t' then expandTabs 0 cs else cs) = cs := if_neg (by simpa using htab)
  unfold wrapLine
  rw [htabs]
  exact if_neg (by simpa using hsome)

/-- A line of a text stands in one line or more. -/
theorem laid_wrapLine (hwidth : 2 ≤ width) (htab : '\t' ∉ cs) :
    Laid cs (wrapLine width cs) ∧ wrapLine width cs ≠ [] := by
  rcases words_eq_nil_or cs with ⟨hnone, hblank⟩ | ⟨hsome, hflatten, hwords⟩
  · rw [wrapLine_eq_of_blank htab hnone]
    have hfits : ∀ line ∈ [cs], cellLength (trimRight line) ≤ width := by
      rw [List.forall_mem_singleton, trimRight_eq_nil hblank]
      exact Nat.zero_le _
    have hlaid := laid_map_fit hfits
    rw [List.flatten_singleton] at hlaid
    exact ⟨hlaid, List.cons_ne_nil _ _⟩
  · rw [wrapLine_eq_of_words htab hsome]
    have hstart : Filled width [] {} := ⟨rfl, rfl, by simp, Nat.zero_le _⟩
    have hfilled := filled_foldl_put hwidth hstart hwords
    rw [hflatten, List.nil_append] at hfilled
    have hlaid := laid_map_fit
      (List.forall_mem_append.mpr ⟨hfilled.full, List.forall_mem_singleton.mpr hfilled.line⟩)
    rw [List.flatten_append, List.flatten_singleton, hfilled.text] at hlaid
    exact ⟨hlaid, by simp⟩

/-- The parts of a text between its line ends, with the line ends between them, give the text. -/
theorem intercalate_lines (cs : List Char) : List.intercalate ['\n'] (lines cs) = cs ∧ lines cs ≠ [] := by
  induction cs with
  | nil => exact ⟨rfl, List.cons_ne_nil _ _⟩
  | cons c cs ih =>
    obtain ⟨hcs, hne⟩ := ih
    obtain ⟨l, ls, hlines⟩ := List.exists_cons_of_ne_nil hne
    rw [hlines] at hcs
    rw [lines]
    split
    · rename_i hc
      refine ⟨?_, List.cons_ne_nil _ _⟩
      rw [hlines, List.intercalate_cons_cons, hcs, beq_iff_eq.mp hc]
      rfl
    · rw [hlines]
      refine ⟨?_, List.cons_ne_nil _ _⟩
      cases ls with
      | nil =>
        rw [← hcs]
        simp [List.intercalate]
      | cons l' ls =>
        rw [List.intercalate_cons_cons, List.cons_append, List.cons_append, ← List.intercalate_cons_cons, hcs]

theorem laid_flatMap_wrapLine (hwidth : 2 ≤ width) {ls : List (List Char)} (hne : ls ≠ [])
    (htab : '\t' ∉ List.intercalate ['\n'] ls) :
    Laid (List.intercalate ['\n'] ls) (ls.flatMap (wrapLine width)) := by
  induction ls with
  | nil => exact absurd rfl hne
  | cons l ls ih =>
    cases ls with
    | nil =>
      rw [List.intercalate_singleton] at htab ⊢
      rw [List.flatMap_singleton]
      exact (laid_wrapLine hwidth htab).1
    | cons l' ls =>
      rw [List.intercalate_cons_cons, List.mem_append, List.mem_append, not_or, not_or] at htab
      obtain ⟨hlaid, hlines⟩ := laid_wrapLine hwidth htab.1.1
      have hend : ∀ c ∈ ['\n'], isSpace c = true := List.forall_mem_singleton.mpr rfl
      rw [List.intercalate_cons_cons, List.flatMap_cons]
      exact (hlaid.blanks_right hlines hend).append (ih (List.cons_ne_nil _ _) htab.2)

/-- A text without tabs stands in the lines that it is broken into. -/
theorem laid_wrap (hwidth : 2 ≤ width) {s : String} (htab : '\t' ∉ s.toList) :
    Laid s.toList ((wrap width s).map String.toList) := by
  obtain ⟨hlines, hne⟩ := intercalate_lines s.toList
  have hlaid := laid_flatMap_wrapLine hwidth hne (by rwa [hlines])
  have hmap : (wrap width s).map String.toList = (lines s.toList).flatMap (wrapLine width) := by
    simp [wrap, Function.comp_def]
  rw [hlines] at hlaid
  rwa [hmap]

end Lines

end CorpusShape.Console
