import CorpusShape.Path
import Mathlib.Data.List.TakeWhile

/-!
# Clean paths

A path is taken apart at its strokes and put together again without loss. Cleaning reads the parts one after the other
and keeps those it has settled on as a stack: names, above the steps up that nothing was left to undo. A settled stack
is read back as it is, so that cleaning twice is cleaning once. From the directory of a file, as many steps up as there
are directories to leave lead back to where two files part.
-/
namespace CorpusShape.Path

section Parts

theorem parts_ne_nil (cs : List Char) : parts cs ≠ [] := by
  cases cs with
  | nil => simp [parts]
  | cons c cs =>
    unfold parts
    split
    · simp
    · split <;> simp

theorem parts_cons {c : Char} (hc : c ≠ '/') {cs p : List Char} {ps : List (List Char)} (h : parts cs = p :: ps) :
    parts (c :: cs) = (c :: p) :: ps := by
  simp [parts, hc, h]

/-- A stroke divides the parts before it from those after it. -/
theorem parts_append_stroke (a b : List Char) : parts (a ++ '/' :: b) = parts a ++ parts b := by
  induction a with
  | nil => simp [parts]
  | cons c a ih =>
    by_cases hc : c = '/'
    · simp [parts, hc, ih]
    · obtain ⟨p, ps, hp⟩ := List.exists_cons_of_ne_nil (parts_ne_nil a)
      rw [parts_cons hc hp, List.cons_append, List.cons_append]
      apply parts_cons hc
      rw [ih, hp, List.cons_append]

theorem not_mem_of_mem_parts {cs p : List Char} (h : p ∈ parts cs) : '/' ∉ p := by
  induction cs generalizing p with
  | nil =>
    obtain rfl : p = [] := by simpa [parts] using h
    simp
  | cons c cs ih =>
    obtain ⟨q, qs, hq⟩ := List.exists_cons_of_ne_nil (parts_ne_nil cs)
    by_cases hc : c = '/'
    · have hp : p = [] ∨ p ∈ parts cs := by simpa [parts, hc] using h
      rcases hp with rfl | hp
      · simp
      · exact ih hp
    · rw [parts_cons hc hq] at h
      rcases List.mem_cons.mp h with rfl | hp
      · have hnot := ih (hq ▸ List.mem_cons_self)
        simp [hnot, Ne.symm hc]
      · exact ih (hq ▸ List.mem_cons_of_mem _ hp)

theorem parts_of_not_mem {cs : List Char} (h : '/' ∉ cs) : parts cs = [cs] := by
  induction cs with
  | nil => rfl
  | cons c cs ih =>
    rw [List.mem_cons, not_or] at h
    exact parts_cons (Ne.symm h.1) (ih h.2)

theorem unparts_cons (p : List Char) {ps : List (List Char)} (h : ps ≠ []) :
    unparts (p :: ps) = p ++ '/' :: unparts ps := by
  cases ps with
  | nil => exact absurd rfl h
  | cons q qs => rfl

theorem unparts_append {as bs : List (List Char)} (ha : as ≠ []) (hb : bs ≠ []) :
    unparts (as ++ bs) = unparts as ++ '/' :: unparts bs := by
  induction as with
  | nil => exact absurd rfl ha
  | cons a as ih =>
    by_cases has : as = []
    · subst has
      exact unparts_cons a hb
    · rw [List.cons_append, unparts_cons a (by simp [has]), unparts_cons a has, ih has]
      simp

theorem unparts_ne_nil {ps : List (List Char)} (hne : ps ≠ []) (h : [] ∉ ps) : unparts ps ≠ [] := by
  cases ps with
  | nil => exact absurd rfl hne
  | cons p ps =>
    cases ps with
    | nil =>
      rintro rfl
      exact h List.mem_cons_self
    | cons q qs => simp [unparts]

theorem unparts_parts (cs : List Char) : unparts (parts cs) = cs := by
  induction cs with
  | nil => rfl
  | cons c cs ih =>
    obtain ⟨p, ps, hp⟩ := List.exists_cons_of_ne_nil (parts_ne_nil cs)
    by_cases hc : c = '/'
    · have hparts : parts (c :: cs) = [] :: parts cs := by simp [parts, hc]
      rw [hparts, unparts_cons [] (parts_ne_nil cs), ih, hc]
      rfl
    · rw [hp] at ih
      rw [parts_cons hc hp, ← ih]
      cases ps with
      | nil => rfl
      | cons q qs => rfl

theorem parts_unparts {ps : List (List Char)} (hne : ps ≠ []) (h : ∀ p ∈ ps, '/' ∉ p) : parts (unparts ps) = ps := by
  induction ps with
  | nil => exact absurd rfl hne
  | cons p ps ih =>
    obtain ⟨hp, hps⟩ := List.forall_mem_cons.mp h
    by_cases hnil : ps = []
    · subst hnil
      exact parts_of_not_mem hp
    · rw [unparts_cons p hnil, parts_append_stroke, parts_of_not_mem hp, ih hnil hps]
      rfl

variable {cs : List Char}

theorem head?_ne_stroke (h : [] ∉ parts cs) : cs.head? ≠ some '/' := by
  intro hstroke
  obtain ⟨rest, rfl⟩ : ∃ rest, cs = '/' :: rest := List.head?_eq_some_iff.mp hstroke
  exact h (by simp [parts])

theorem getLast?_ne_stroke (h : [] ∉ parts cs) : cs.getLast? ≠ some '/' := by
  intro hstroke
  obtain ⟨front, rfl⟩ := List.getLast?_eq_some_iff.mp hstroke
  apply h
  rw [parts_append_stroke]
  simp [parts]

end Parts

section Cleaning

/-- A part that names a file or a directory. -/
def Names (part : List Char) : Prop := part ≠ [] ∧ part ≠ ['.'] ∧ part ≠ ['.', '.']

instance (part : List Char) : Decidable (Names part) := inferInstanceAs (Decidable (_ ∧ _ ∧ _))

variable {done ps above : List (List Char)} {part : List Char}

theorem cleanStep_of_names (h : Names part) (absolute : Bool) (done : List (List Char)) :
    cleanStep absolute done part = part :: done := by
  simp [cleanStep, h.1, h.2.1, h.2.2]

theorem foldl_cleanStep_names (h : ∀ p ∈ ps, Names p) (absolute : Bool) (done : List (List Char)) :
    ps.foldl (cleanStep absolute) done = ps.reverse ++ done := by
  induction ps generalizing done with
  | nil => rfl
  | cons p ps ih =>
    obtain ⟨hp, hps⟩ := List.forall_mem_cons.mp h
    rw [List.foldl_cons, cleanStep_of_names hp, ih hps]
    simp

/-- As many steps up as there are names on the stack undo them all. -/
theorem foldl_cleanStep_up (h : ∀ p ∈ above, Names p) (absolute : Bool) (done : List (List Char)) :
    (List.replicate above.length ['.', '.']).foldl (cleanStep absolute) (above ++ done) = done := by
  induction above with
  | nil => rfl
  | cons p above ih =>
    obtain ⟨hp, habove⟩ := List.forall_mem_cons.mp h
    have hstep : cleanStep absolute (p :: above ++ done) ['.', '.'] = above ++ done := by simp [cleanStep, hp.2.2]
    rw [List.length_cons, List.replicate_succ, List.foldl_cons, hstep]
    exact ih habove

/-- A stack of parts that cleaning leaves as they are: names, above steps up. -/
inductive Settled : List (List Char) → Prop
  | up (n : Nat) : Settled (List.replicate n ['.', '.'])
  | name {part : List Char} {done : List (List Char)} : Names part → '/' ∉ part → Settled done → Settled (part :: done)

theorem Settled.up_cases (h : Settled (['.', '.'] :: done)) : ∃ n, done = List.replicate n ['.', '.'] := by
  generalize hall : ['.', '.'] :: done = all at h
  cases h with
  | up n =>
    cases n with
    | zero => cases hall
    | succ n =>
      rw [List.replicate_succ] at hall
      exact ⟨n, (List.cons.inj hall).2⟩
  | name hpart =>
    cases hall
    exact absurd rfl hpart.2.2

theorem Settled.tail (h : Settled (part :: done)) (hpart : part ≠ ['.', '.']) : Settled done := by
  generalize hall : part :: done = all at h
  cases h with
  | up n =>
    have hup : part = ['.', '.'] := List.eq_of_mem_replicate (hall ▸ List.mem_cons_self)
    exact absurd hup hpart
  | name _ _ hdone =>
    cases hall
    exact hdone

theorem Settled.cleanStep (h : Settled done) (hpart : '/' ∉ part) : Settled (cleanStep false done part) := by
  by_cases hempty : part = [] ∨ part = ['.']
  · have hstep : Path.cleanStep false done part = done := by simp [Path.cleanStep, hempty]
    rwa [hstep]
  rw [not_or] at hempty
  by_cases hup : part = ['.', '.']
  · subst hup
    cases done with
    | nil => exact Settled.up 1
    | cons last rest =>
      by_cases hlast : last = ['.', '.']
      · subst hlast
        obtain ⟨n, rfl⟩ := h.up_cases
        exact Settled.up (n + 2)
      · have hstep : Path.cleanStep false (last :: rest) ['.', '.'] = rest := by simp [Path.cleanStep, hlast]
        rw [hstep]
        exact h.tail hlast
  · have hnames : Names part := ⟨hempty.1, hempty.2, hup⟩
    rw [cleanStep_of_names hnames]
    exact .name hnames hpart h

theorem Settled.foldl (h : Settled done) (hps : ∀ p ∈ ps, '/' ∉ p) :
    Settled (ps.foldl (Path.cleanStep false) done) := by
  induction ps generalizing done with
  | nil => exact h
  | cons p ps ih =>
    obtain ⟨hp, hps⟩ := List.forall_mem_cons.mp hps
    exact ih (h.cleanStep hp) hps

/-- A settled stack is read back as it is. -/
theorem Settled.foldl_reverse (h : Settled done) : done.reverse.foldl (Path.cleanStep false) [] = done := by
  induction h with
  | up n =>
    rw [List.reverse_replicate]
    induction n with
    | zero => rfl
    | succ n ih =>
      rw [List.replicate_succ', List.foldl_append, ih, ← List.replicate_succ']
      cases n with
      | zero => rfl
      | succ n => rfl
  | name hpart _ _ ih =>
    rw [List.reverse_cons, List.foldl_append, ih, List.foldl_cons, cleanStep_of_names hpart, List.foldl_nil]

theorem Settled.mem (h : Settled done) (hpart : part ∈ done) : part ≠ [] ∧ '/' ∉ part := by
  induction h with
  | up n =>
    rw [List.eq_of_mem_replicate hpart]
    decide
  | name hnames hstroke _ ih =>
    rcases List.mem_cons.mp hpart with rfl | hrest
    · exact ⟨hnames.1, hstroke⟩
    · exact ih hrest

theorem settled_cleanParts (cs : List Char) : Settled (cleanParts false (parts cs)).reverse := by
  rw [cleanParts, List.reverse_reverse]
  exact (Settled.up 0).foldl fun _ => not_mem_of_mem_parts

theorem cleanParts_cleanParts (cs : List Char) :
    cleanParts false (cleanParts false (parts cs)) = cleanParts false (parts cs) := by
  have h := (settled_cleanParts cs).foldl_reverse
  rw [List.reverse_reverse] at h
  rw [cleanParts, h, List.reverse_reverse]

end Cleaning

section Relative
variable {path : String}

theorem startsWith_iff_head? {s t : String} {c : Char} (ht : t.toList = [c]) :
    s.startsWith t = true ↔ s.toList.head? = some c := by
  rw [String.startsWith_string_iff, ht, List.head?_eq_some_iff]
  constructor
  · rintro ⟨rest, h⟩
    exact ⟨rest, h.symm⟩
  · rintro ⟨rest, h⟩
    exact ⟨rest, h.symm⟩

theorem isAbsolute_eq_false : isAbsolute path = false ↔ path.toList.head? ≠ some '/' := by
  rw [isAbsolute, ← Bool.not_eq_true, startsWith_iff_head? (c := '/') rfl]

theorem leadingStrokes_of_head? {cs : List Char} (h : cs.head? ≠ some '/') : leadingStrokes cs = 0 := by
  unfold leadingStrokes
  split <;> simp_all

/-- The parts that cleaning a relative path leaves. -/
theorem clean_of_relative (h : isAbsolute path = false) :
    clean path = if cleanParts false (parts path.toList) = [] then "." else
      String.ofList (unparts (cleanParts false (parts path.toList))) := by
  have hstrokes := leadingStrokes_of_head? (isAbsolute_eq_false.mp h)
  have hsettled := settled_cleanParts path.toList
  unfold clean
  simp only [hstrokes, List.replicate_zero, List.nil_append, bne_self_eq_false]
  generalize cleanParts false (parts path.toList) = ps at hsettled
  by_cases hnil : ps = []
  · subst hnil
    rfl
  · have hne := unparts_ne_nil hnil fun hmem => (hsettled.mem (List.mem_reverse.mpr hmem)).1 rfl
    simp [hnil, hne]

theorem parts_clean (h : isAbsolute path = false) :
    parts (clean path).toList = if cleanParts false (parts path.toList) = [] then [['.']] else
      cleanParts false (parts path.toList) := by
  have hsettled := settled_cleanParts path.toList
  rw [clean_of_relative h]
  split
  · rfl
  · rename_i hne
    rw [String.toList_ofList]
    exact parts_unparts hne fun p hp => (hsettled.mem (List.mem_reverse.mpr hp)).2

theorem nil_not_mem_parts_clean (h : isAbsolute path = false) : [] ∉ parts (clean path).toList := by
  have hsettled := settled_cleanParts path.toList
  rw [parts_clean h]
  split
  · decide
  · exact fun hmem => (hsettled.mem (List.mem_reverse.mpr hmem)).1 rfl

theorem isAbsolute_clean (h : isAbsolute path = false) : isAbsolute (clean path) = false :=
  isAbsolute_eq_false.mpr (head?_ne_stroke (nil_not_mem_parts_clean h))

theorem clean_clean (h : isAbsolute path = false) : clean (clean path) = clean path := by
  have hagain : cleanParts false (parts (clean path).toList) = cleanParts false (parts path.toList) := by
    rw [parts_clean h]
    split
    · rename_i hnil
      rw [hnil]
      rfl
    · exact cleanParts_cleanParts _
  rw [clean_of_relative (isAbsolute_clean h), hagain, clean_of_relative h]

end Relative

section Normal
variable {path : String}

/-- A path below the root whose parts all name something. -/
def Normal (path : String) : Prop := ∀ p ∈ parts path.toList, Names p

instance (path : String) : Decidable (Normal path) := inferInstanceAs (Decidable (∀ p ∈ _, _))

theorem Normal.nil_not_mem (h : Normal path) : [] ∉ parts path.toList := fun hmem => (h [] hmem).1 rfl

theorem Normal.isAbsolute (h : Normal path) : isAbsolute path = false :=
  isAbsolute_eq_false.mpr (head?_ne_stroke h.nil_not_mem)

theorem clean_eq_of_parts {other : String} (hother : Path.isAbsolute other = false)
    (hparts : cleanParts false (parts other.toList) = parts path.toList) : clean other = path := by
  rw [clean_of_relative hother, hparts, if_neg (parts_ne_nil _), unparts_parts, String.ofList_toList]

theorem Normal.clean (h : Normal path) : clean path = path := by
  apply clean_eq_of_parts h.isAbsolute
  rw [cleanParts, foldl_cleanStep_names h]
  simp

end Normal

section Directories
variable {path : String} {dirs : List (List Char)} {name : List Char}

theorem dropWhile_stroke_of_head? {cs : List Char} (h : cs.head? ≠ some '/') : cs.dropWhile (· == '/') = cs := by
  cases cs with
  | nil => rfl
  | cons c cs =>
    have hc : c ≠ '/' := by simpa using h
    rw [List.dropWhile_cons_of_neg (by simpa using hc)]

theorem dropTrailingStrokes_append_stroke {cs : List Char} (h : cs.getLast? ≠ some '/') :
    dropTrailingStrokes (cs ++ ['/']) = cs := by
  have hfirst : cs.reverse.head? ≠ some '/' := by rwa [List.head?_reverse]
  rw [dropTrailingStrokes, List.reverse_append, List.reverse_singleton, List.singleton_append,
    List.dropWhile_cons_of_pos (by rfl), dropWhile_stroke_of_head? hfirst, List.reverse_reverse]

theorem not_mem_of_parts_eq (h : parts path.toList = dirs ++ [name]) : (∀ d ∈ dirs, '/' ∉ d) ∧ '/' ∉ name := by
  have hparts : ∀ p ∈ dirs ++ [name], '/' ∉ p := by
    rw [← h]
    exact fun p hp => not_mem_of_mem_parts hp
  exact ⟨fun d hd => hparts d (List.mem_append_left _ hd), hparts name List.mem_concat_self⟩

/-- The directory of a path without empty parts has all of its parts but the last. -/
theorem directory_eq (h : parts path.toList = dirs ++ [name]) (hdirs : [] ∉ dirs) :
    directory path = String.ofList (unparts dirs) := by
  obtain ⟨hstrokes, hname⟩ := not_mem_of_parts_eq h
  have hnot : name.reverse.dropWhile (· != '/') = [] := by
    rw [List.dropWhile_eq_nil_iff]
    intro c hc
    simpa using fun he : c = '/' => hname (he ▸ List.mem_reverse.mp hc)
  have hpath : path.toList = unparts (dirs ++ [name]) := by rw [← h, unparts_parts]
  unfold directory
  rw [hpath]
  by_cases hnil : dirs = []
  · subst hnil
    simp [hnot, unparts]
  · have hparts := parts_unparts hnil hstrokes
    have hnone : [] ∉ parts (unparts dirs) := by rwa [hparts]
    have hhead : ((unparts dirs ++ '/' :: name).reverse.dropWhile (· != '/')).reverse = unparts dirs ++ ['/'] := by
      rw [List.reverse_append, List.reverse_cons, List.append_assoc, List.dropWhile_append, hnot]
      simp
    have hmixed : (unparts dirs ++ ['/']).all (· == '/') = false := by
      obtain ⟨c, cs, hchars⟩ := List.exists_cons_of_ne_nil (unparts_ne_nil hnil hdirs)
      have hfirst := head?_ne_stroke hnone
      rw [hchars] at hfirst ⊢
      have hc : c ≠ '/' := by simpa using hfirst
      simp [hc]
    rw [unparts_append hnil (by simp)]
    simp only [unparts, hhead, hmixed]
    rw [dropTrailingStrokes_append_stroke (getLast?_ne_stroke hnone)]
    rfl

theorem join_of_relative {a b : String} (ha : a ≠ "") (hlast : a.toList.getLast? ≠ some '/')
    (hb : isAbsolute b = false) : join a b = a ++ "/" ++ b := by
  have hend : a.endsWith "/" = false := by
    rw [← String.endsWith_toSlice, String.Slice.endsWith_string_eq_false_iff, String.copy_toSlice]
    rintro ⟨front, hfront⟩
    exact hlast (List.getLast?_eq_some_iff.mpr ⟨front, hfront.symm⟩)
  have hstart : b.startsWith "/" = false := hb
  simp [join, hstart, hend, ha]

theorem parts_join_directory (h : parts path.toList = dirs ++ [name]) (hdirs : [] ∉ dirs) {specifier : String}
    (hs : isAbsolute specifier = false) :
    parts (join (directory path) specifier).toList = dirs ++ parts specifier.toList := by
  have hstart : specifier.startsWith "/" = false := hs
  rw [directory_eq h hdirs]
  by_cases hnil : dirs = []
  · subst hnil
    simp [join, hstart, unparts]
  · obtain ⟨hstrokes, -⟩ := not_mem_of_parts_eq h
    have hparts := parts_unparts hnil hstrokes
    have hnone : [] ∉ parts (unparts dirs) := by rwa [hparts]
    have hne : String.ofList (unparts dirs) ≠ "" := by
      intro hempty
      apply unparts_ne_nil hnil hdirs
      rw [← String.toList_ofList (l := unparts dirs), hempty]
      rfl
    rw [join_of_relative hne (by rw [String.toList_ofList]; exact getLast?_ne_stroke hnone) hs]
    simp only [String.toList_append, String.toList_ofList, List.append_assoc]
    have hstroke : "/".toList ++ specifier.toList = '/' :: specifier.toList := rfl
    rw [hstroke, parts_append_stroke, hparts]

theorem reverse_dropWhile_reverse_isPrefix (p : Char → Bool) (cs : List Char) :
    (cs.reverse.dropWhile p).reverse <+: cs := by
  rw [← List.reverse_suffix, List.reverse_reverse]
  exact List.dropWhile_suffix p

theorem directory_isPrefix (path : String) : (directory path).toList <+: path.toList := by
  have hhead := reverse_dropWhile_reverse_isPrefix (· != '/') path.toList
  unfold directory
  dsimp only
  split
  · rwa [String.toList_ofList]
  · rw [String.toList_ofList]
    exact (reverse_dropWhile_reverse_isPrefix (· == '/') _).trans hhead

theorem isAbsolute_append {a b : String} (ha : isAbsolute a = false) (hb : a = "" → isAbsolute b = false) :
    isAbsolute (a ++ b) = false := by
  rw [isAbsolute_eq_false, String.toList_append, List.head?_append]
  cases hchars : a.toList with
  | nil =>
    have hempty : a = "" := String.toList_eq_nil_iff.mp hchars
    simpa using isAbsolute_eq_false.mp (hb hempty)
  | cons c cs =>
    have hc := isAbsolute_eq_false.mp ha
    simpa [hchars] using hc

/-- What a relative path names is relative, seen from the directory of a relative path. -/
theorem isAbsolute_join_directory (h : isAbsolute path = false) {specifier : String}
    (hs : isAbsolute specifier = false) : isAbsolute (join (directory path) specifier) = false := by
  have hdirectory : isAbsolute (directory path) = false := by
    rw [isAbsolute_eq_false] at h ⊢
    obtain ⟨rest, hrest⟩ := directory_isPrefix path
    intro hstroke
    apply h
    rw [← hrest, List.head?_append, hstroke]
    rfl
  have hstart : specifier.startsWith "/" = false := hs
  unfold join
  rw [if_neg (by simp [hstart])]
  split
  · exact isAbsolute_append hdirectory fun _ => hs
  · rename_i hne
    have hdir : directory path ≠ "" := fun hempty => hne (by simp [hempty])
    apply isAbsolute_append
    · exact isAbsolute_append hdirectory fun hempty => absurd hempty hdir
    · intro hempty
      simp at hempty

end Directories

end CorpusShape.Path
