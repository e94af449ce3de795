import CorpusShape.Console.Pictures
import Mathlib.Data.List.Basic

/-!
# Codes of pictures

Putting pictures in the place of their names leaves a text alone if no code in it names a picture. Otherwise colons are
lost, since the two colons around a name go and no picture has any.
-/
namespace CorpusShape.Console
variable {state : Option (List Char)} {cs code name picture : List Char}

/-- The texts between two colons that may name pictures. After a colon that may start a name, what was read since then
is kept, last character first. -/
def codes : Option (List Char) → List Char → List (List Char)
  | _, [] => []
  | none, c :: rest => if c == ':' then codes (some []) rest else codes none rest
  | some code, c :: rest =>
    if c == ':' then code.reverse :: codes none rest
    else if isSpace c then codes none rest
    else codes (some (c :: code)) rest

theorem not_mem_of_mem_colonParts {part : List Char} (h : part ∈ colonParts cs) : ':' ∉ part := by
  fun_induction colonParts cs generalizing part with
  | case1 =>
    rw [List.mem_singleton.mp h]
    exact List.not_mem_nil
  | case2 c rest hc ih =>
    rcases List.mem_cons.mp h with rfl | h
    · exact List.not_mem_nil
    · exact ih h
  | case3 c rest hc hnil ih =>
    rw [List.mem_singleton.mp h, List.mem_singleton]
    rintro rfl
    exact hc rfl
  | case4 c rest hc p ps hparts ih =>
    rw [hparts] at ih
    rcases List.mem_cons.mp h with rfl | h
    · rw [List.mem_cons, not_or]
      refine ⟨?_, ih List.mem_cons_self⟩
      rintro rfl
      exact hc rfl
    · exact ih (List.mem_cons_of_mem _ h)

theorem mem_of_pictureIn? {parts : List (List Char)} (h : pictureIn? name parts = some picture) : picture ∈ parts := by
  fun_induction pictureIn? name parts with
  | case1 n p rest =>
    cases h
    exact List.mem_cons_of_mem _ List.mem_cons_self
  | case2 n p rest _ ih => exact List.mem_cons_of_mem _ (List.mem_cons_of_mem _ (ih h))
  | case3 => cases h

theorem not_mem_of_tablePicture? {table : List String} (h : tablePicture? table name = some picture) :
    ':' ∉ picture := by
  obtain ⟨line, -, hline⟩ := List.exists_of_findSome?_eq_some h
  exact not_mem_of_mem_colonParts (mem_of_pictureIn? hline)

theorem not_mem_withTone {tone : Char} (htone : tone ≠ ':') (h : ':' ∉ cs) : ':' ∉ withTone tone cs := by
  cases cs with
  | nil => exact List.not_mem_nil
  | cons c rest =>
    rw [List.mem_cons, not_or] at h
    rw [withTone, List.mem_cons, List.mem_cons, not_or, not_or]
    refine ⟨h.1, htone.symm, ?_⟩
    split
    · exact fun hmem => h.2 (List.mem_of_mem_drop hmem)
    · exact h.2

theorem not_mem_of_tonedPicture? (h : tonedPicture? name = some picture) : ':' ∉ picture := by
  obtain ⟨⟨tone, mark⟩, hmem, htoned⟩ := List.exists_of_findSome?_eq_some h
  have hmark : ∀ t ∈ tones, t.2 ≠ ':' := by decide
  obtain ⟨base, -, htoned⟩ := Option.bind_eq_some_iff.mp htoned
  obtain ⟨p, hp, htoned⟩ := Option.bind_eq_some_iff.mp htoned
  rw [← Option.some.inj htoned]
  exact not_mem_withTone (hmark _ hmem) (not_mem_of_tablePicture? hp)

theorem not_mem_of_namedPicture? (h : namedPicture? name = some picture) : ':' ∉ picture := by
  rw [namedPicture?, Option.or_eq_some_iff, Option.or_eq_some_iff] at h
  rcases h with (h | ⟨-, h⟩) | ⟨-, h⟩
  · exact not_mem_of_tablePicture? h
  · exact not_mem_of_tablePicture? h
  · exact not_mem_of_tonedPicture? h

theorem not_mem_of_marked {mark : Char} (hmark : mark ≠ ':') (h : (namedPicture? name).map (· ++ [mark]) = some picture) :
    ':' ∉ picture := by
  obtain ⟨p, hp, rfl⟩ := Option.map_eq_some_iff.mp h
  rw [List.mem_append, List.mem_singleton, not_or]
  exact ⟨not_mem_of_namedPicture? hp, hmark.symm⟩

/-- No picture has a colon in it. -/
theorem not_mem_of_picture? (h : picture? code = some picture) : ':' ∉ picture := by
  unfold picture? at h
  split at h
  · exact not_mem_of_marked (by decide) h
  · exact not_mem_of_marked (by decide) h
  · exact not_mem_of_namedPicture? h

def pending : Option (List Char) → List Char
  | none => []
  | some code => ':' :: code.reverse

/-- A text none of whose codes names a picture is left as it is. -/
theorem withPictures_eq (h : ∀ code ∈ codes state cs, picture? code = none) :
    withPictures state cs = pending state ++ cs := by
  fun_induction withPictures state cs with
  | case1 => rfl
  | case2 c rest hc ih =>
    rw [codes, if_pos hc] at h
    rw [ih h, beq_iff_eq.mp hc]
    rfl
  | case3 c rest hc ih =>
    rw [codes, if_neg hc] at h
    rw [ih h]
    rfl
  | case4 code => simp [pending]
  | case5 code c rest hc ih =>
    rw [codes, if_pos hc, List.forall_mem_cons] at h
    rw [ih h.2, codeOrPicture, h.1, beq_iff_eq.mp hc]
    simp [pending]
  | case6 code c rest hc hspace ih =>
    rw [codes, if_neg hc, if_pos hspace] at h
    rw [ih h]
    simp [pending]
  | case7 code c rest hc hspace ih =>
    rw [codes, if_neg hc, if_neg hspace] at h
    rw [ih h]
    simp [pending]

/-- A picture in the place of its name costs two colons. -/
theorem count_codeOrPicture (h : ':' ∉ code) :
    (codeOrPicture code).count ':' ≤ 2 ∧ ((codeOrPicture code).count ':' = 2 → picture? code = none) := by
  unfold codeOrPicture
  cases hpicture : picture? code with
  | none => simp [List.count_eq_zero.mpr h]
  | some p => simp [List.count_eq_zero.mpr (not_mem_of_picture? hpicture)]

/-- No colons are added, and if none is lost then no code names a picture. -/
theorem count_withPictures (state : Option (List Char)) (cs : List Char) (h : ':' ∉ state.getD []) :
    (withPictures state cs).count ':' ≤ (pending state ++ cs).count ':' ∧
      ((withPictures state cs).count ':' = (pending state ++ cs).count ':' →
        ∀ code ∈ codes state cs, picture? code = none) := by
  fun_induction withPictures state cs with
  | case1 => simp [pending, codes]
  | case2 c rest hc ih =>
    obtain ⟨hle, heq⟩ := ih List.not_mem_nil
    rw [codes, if_pos hc, beq_iff_eq.mp hc]
    exact ⟨hle, heq⟩
  | case3 c rest hc ih =>
    obtain ⟨hle, heq⟩ := ih List.not_mem_nil
    have hne : c ≠ ':' := fun h => hc (beq_iff_eq.mpr h)
    rw [codes, if_neg hc, pending, List.nil_append, List.count_cons_of_ne hne, List.count_cons_of_ne hne]
    exact ⟨hle, heq⟩
  | case4 code => simp [pending, codes]
  | case5 code c rest hc ih =>
    obtain ⟨hle, heq⟩ := ih List.not_mem_nil
    have hcode : ':' ∉ code.reverse := fun hmem => h (List.mem_reverse.mp hmem)
    obtain ⟨hpicture, hname⟩ := count_codeOrPicture hcode
    have hcolons : (pending (some code) ++ c :: rest).count ':' = 2 + rest.count ':' := by
      rw [beq_iff_eq.mp hc, pending, List.count_append, List.count_cons_self, List.count_cons_self,
        List.count_eq_zero.mpr hcode]
      omega
    rw [pending, List.nil_append] at hle heq
    rw [codes, if_pos hc, List.count_append, hcolons, List.forall_mem_cons]
    refine ⟨Nat.add_le_add hpicture hle, fun htotal => ⟨hname ?_, heq ?_⟩⟩
    · omega
    · omega
  | case6 code c rest hc hspace ih =>
    obtain ⟨hle, heq⟩ := ih List.not_mem_nil
    have hne : c ≠ ':' := fun h => hc (beq_iff_eq.mpr h)
    rw [pending, List.nil_append] at hle heq
    rw [codes, if_neg hc, if_pos hspace, pending, List.count_append, List.count_append, List.count_cons_of_ne hne,
      List.count_cons_of_ne hne]
    exact ⟨Nat.add_le_add_left hle _, fun htotal => heq (Nat.add_left_cancel htotal)⟩
  | case7 code c rest hc hspace ih =>
    have hne : c ≠ ':' := fun h => hc (beq_iff_eq.mpr h)
    obtain ⟨hle, heq⟩ := ih (by simpa [hne.symm] using h)
    have hkept : pending (some (c :: code)) ++ rest = pending (some code) ++ c :: rest := by simp [pending]
    rw [hkept] at hle heq
    rw [codes, if_neg hc, if_neg hspace]
    exact ⟨hle, heq⟩

end CorpusShape.Console
