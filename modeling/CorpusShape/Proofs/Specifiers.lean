import CorpusShape.Proofs.CleanPaths
import CorpusShape.Proofs.Tables

/-!
# Specifiers of files

What a relative specifier names is found from anywhere, by the clean path from the root. A specifier that climbs from
one module to a directory above both and goes down to another names exactly the other one, whatever else is in the
corpus, since a path is looked up as it is before it is changed in any way. A directory stands for its index file, if no
file has its name; the root does not, because the clean path of the root is a point, and no path of a corpus starts with
one.
-/
namespace CorpusShape.Corpus
open CorpusShape.Path
variable {c : Corpus} {origin specifier : String}

section Bases

theorem specifiedPath?_of_relative (origin : String) (h : specifier.startsWith "." = true) :
    specifiedPath? origin specifier = some (clean (join (directory origin) specifier)) := by
  have hpoint := (startsWith_iff_head? (c := '.') rfl).mp h
  have hstroke : ¬specifier.startsWith "/" = true := by
    rw [startsWith_iff_head? (c := '/') rfl, hpoint]
    decide
  rw [specifiedPath?, if_neg hstroke, if_pos h]

theorem isAbsolute_of_relative (h : specifier.startsWith "." = true) : isAbsolute specifier = false := by
  rw [isAbsolute_eq_false, (startsWith_iff_head? (c := '.') rfl).mp h]
  decide

theorem specifiedPath?_rooted (origin : String) {base : String} (h : isAbsolute base = false) :
    specifiedPath? origin ("/" ++ base) = some (clean base) := by
  have hchars : ("/" ++ base).toList = '/' :: base.toList := String.toList_append
  have hstroke : ("/" ++ base).startsWith "/" = true := by
    rw [startsWith_iff_head? (c := '/') rfl, hchars]
    rfl
  have hrest : ('/' :: base.toList).dropWhile (· == '/') = base.toList := by
    rw [List.dropWhile_cons_of_pos (by rfl), dropWhile_stroke_of_head? (isAbsolute_eq_false.mp h)]
  rw [specifiedPath?, if_pos hstroke, hchars, hrest, String.ofList_toList]

theorem resolve?_of_specifiedPath? {base : String} (h : specifiedPath? origin specifier = some base) :
    c.resolve? origin specifier = (candidates base).find? c.contains := by
  rw [resolve?, h]

/-- A path of the corpus is found as it is. -/
theorem resolve?_of_mem_paths {path : String} (h : specifiedPath? origin specifier = some path)
    (hpath : path ∈ c.paths) : c.resolve? origin specifier = some path := by
  have hcontains : c.contains path = true := (Table.contains_iff_mem_keys _ _).mpr hpath
  obtain ⟨rest, hrest⟩ : ∃ rest, candidates path = path :: rest := ⟨_, rfl⟩
  rw [resolve?_of_specifiedPath? h, hrest, List.find?_cons_of_pos hcontains]

end Bases

section RoundTrip
variable {shared above below : List (List Char)}

/-- A specifier that climbs out of so many directories and goes down through the given parts. -/
def relativeSpecifier (climbs : Nat) (below : List (List Char)) : String :=
  String.ofList ((if climbs = 0 then "./".toList else (List.replicate climbs "../".toList).flatten) ++ unparts below)

theorem parts_climbs (climbs : Nat) (cs : List Char) :
    parts ((List.replicate climbs "../".toList).flatten ++ cs) = List.replicate climbs ['.', '.'] ++ parts cs := by
  induction climbs with
  | zero => rfl
  | succ climbs ih =>
    have hfirst : (List.replicate (climbs + 1) "../".toList).flatten ++ cs =
        ['.', '.'] ++ '/' :: ((List.replicate climbs "../".toList).flatten ++ cs) := rfl
    rw [hfirst, parts_append_stroke, ih]
    rfl

theorem startsWith_relativeSpecifier (climbs : Nat) (below : List (List Char)) :
    (relativeSpecifier climbs below).startsWith "." = true := by
  rw [startsWith_iff_head? (c := '.') rfl, relativeSpecifier, String.toList_ofList]
  cases climbs with
  | zero => rfl
  | succ climbs => rfl

theorem parts_relativeSpecifier (climbs : Nat) (hne : below ≠ []) (hbelow : ∀ p ∈ below, '/' ∉ p) :
    parts (relativeSpecifier climbs below).toList =
      (if climbs = 0 then [['.']] else List.replicate climbs ['.', '.']) ++ below := by
  rw [relativeSpecifier, String.toList_ofList]
  split
  · have hpoint : "./".toList ++ unparts below = ['.'] ++ '/' :: unparts below := rfl
    rw [hpoint, parts_append_stroke, parts_unparts hne hbelow]
    rfl
  · rw [parts_climbs, parts_unparts hne hbelow]

/-- Climbing out of the directories above leads back to the shared ones. -/
theorem cleanParts_climb (hshared : ∀ p ∈ shared, Names p) (habove : ∀ p ∈ above, Names p)
    (hbelow : ∀ p ∈ below, Names p) :
    cleanParts false (shared ++ above ++
      ((if above.length = 0 then [['.']] else List.replicate above.length ['.', '.']) ++ below)) = shared ++ below := by
  have hback : (if above.length = 0 then [['.']] else List.replicate above.length ['.', '.']).foldl (cleanStep false)
      (above.reverse ++ (shared.reverse ++ [])) = shared.reverse ++ [] := by
    split
    · rename_i hzero
      rw [List.length_eq_zero_iff.mp hzero]
      rfl
    · rw [← List.length_reverse]
      exact foldl_cleanStep_up (fun p hp => habove p (List.mem_reverse.mp hp)) false _
  rw [cleanParts, List.foldl_append, List.foldl_append, List.foldl_append, foldl_cleanStep_names hshared,
    foldl_cleanStep_names habove, hback, foldl_cleanStep_names hbelow]
  simp

theorem specifiedPath?_relativeSpecifier {p q : String} {name : List Char} (hp : Normal p) (hq : Normal q)
    (hpparts : parts p.toList = shared ++ above ++ [name]) (hqparts : parts q.toList = shared ++ below)
    (hne : below ≠ []) :
    specifiedPath? p (relativeSpecifier above.length below) = some q := by
  have hpnames : ∀ part ∈ shared ++ above, Names part := fun part hpart =>
    hp part (hpparts ▸ List.mem_append_left _ hpart)
  have hqnames : ∀ part ∈ below, Names part := fun part hpart => hq part (hqparts ▸ List.mem_append_right _ hpart)
  have hstrokes : ∀ part ∈ below, '/' ∉ part := fun part hpart =>
    not_mem_of_mem_parts (hqparts ▸ List.mem_append_right _ hpart)
  have hpoint := startsWith_relativeSpecifier above.length below
  have hrelative := isAbsolute_of_relative hpoint
  have hclean : clean (join (directory p) (relativeSpecifier above.length below)) = q := by
    apply clean_eq_of_parts (isAbsolute_join_directory hp.isAbsolute hrelative)
    rw [parts_join_directory hpparts (fun hnil => (hpnames [] hnil).1 rfl) hrelative,
      parts_relativeSpecifier _ hne hstrokes, hqparts]
    exact cleanParts_climb (fun part hpart => hpnames part (List.mem_append_left _ hpart))
      (fun part hpart => hpnames part (List.mem_append_right _ hpart)) hqnames
  rw [specifiedPath?_of_relative p hpoint, hclean]

/-- In a corpus of normal paths the specifier from one module to another, by way of any directory above both, names the
other one, and so does its path from the root; and in every corpus a relative specifier names what the clean path that
it stands for names from the root, seen from anywhere. -/
theorem specifiers_round_trip (c : Corpus) :
    ((∀ path ∈ c.paths, Normal path) →
      (∀ p ∈ c.paths, ∀ q ∈ c.paths, ∀ shared above name below, parts p.toList = shared ++ above ++ [name] →
        parts q.toList = shared ++ below → below ≠ [] → c.resolve? p (relativeSpecifier above.length below) = some q) ∧
      ∀ q ∈ c.paths, ∀ origin, c.resolve? origin ("/" ++ q) = some q) ∧
    ∀ origin specifier, isAbsolute origin = false → specifier.startsWith "." = true → ∀ other,
      c.resolve? origin specifier = c.resolve? other ("/" ++ clean (join (directory origin) specifier)) := by
  refine ⟨fun hc => ⟨?_, ?_⟩, ?_⟩
  · intro p hp q hq shared above name below hpparts hqparts hne
    exact resolve?_of_mem_paths (specifiedPath?_relativeSpecifier (hc p hp) (hc q hq) hpparts hqparts hne) hq
  · intro q hq origin
    apply resolve?_of_mem_paths _ hq
    rw [specifiedPath?_rooted origin (hc q hq).isAbsolute, (hc q hq).clean]
  · intro origin specifier horigin hpoint other
    have hrelative := isAbsolute_join_directory horigin (isAbsolute_of_relative hpoint)
    rw [resolve?_of_specifiedPath? (specifiedPath?_of_relative origin hpoint),
      resolve?_of_specifiedPath? (specifiedPath?_rooted other (isAbsolute_clean hrelative)), clean_clean hrelative]

/-- Modules of several depths, with names that differ in an extension only. -/
def nestedCorpus : Corpus :=
  ofModules [{ path := "main.ts" }, { path := "src/a/x.ts" }, { path := "src/a/x.ts.ts" }, { path := "src/lib/y.js" },
    { path := "src/lib/y.ts" }]

theorem specifiers_round_trip_nested :
    nestedCorpus.resolve? "src/a/x.ts" "../lib/y.js" = some "src/lib/y.js" ∧
      nestedCorpus.resolve? "src/lib/y.js" "../../main.ts" = some "main.ts" ∧
      nestedCorpus.resolve? "main.ts" "./src/a/x.ts" = some "src/a/x.ts" ∧
      nestedCorpus.resolve? "main.ts" "/src/a/x.ts" = some "src/a/x.ts" ∧
      nestedCorpus.resolve? "src/a/x.ts" "../../../lib" = nestedCorpus.resolve? "main.ts" "/../lib" := by
  have hc : ∀ path ∈ nestedCorpus.paths, Normal path := by decide
  obtain ⟨hmodules, hrooted⟩ := specifiers_round_trip nestedCorpus
  obtain ⟨hpairs, hroot⟩ := hmodules hc
  refine ⟨?_, ?_, ?_, ?_, ?_⟩
  · exact hpairs "src/a/x.ts" (by decide) "src/lib/y.js" (by decide) ["src".toList] ["a".toList] "x.ts".toList
      ["lib".toList, "y.js".toList] (by decide) (by decide) (by decide)
  · exact hpairs "src/lib/y.js" (by decide) "main.ts" (by decide) [] ["src".toList, "lib".toList] "y.js".toList
      ["main.ts".toList] (by decide) (by decide) (by decide)
  · exact hpairs "main.ts" (by decide) "src/a/x.ts" (by decide) [] [] "main.ts".toList
      ["src".toList, "a".toList, "x.ts".toList] (by decide) (by decide) (by decide)
  · exact hroot "src/a/x.ts" (by decide) "main.ts"
  · have hclean : clean (join (directory "src/a/x.ts") "../../../lib") = "../lib" := by decide +kernel
    have hsame := hrooted "src/a/x.ts" "../../../lib" (by decide +kernel) (by decide +kernel) "main.ts"
    rw [hclean] at hsame
    exact hsame

end RoundTrip

section Indexes

def fileSpellings (base : String) : List String :=
  [base] ++ (compiledFrom (splitExtension base).2).map ((splitExtension base).1 ++ ·) ++
    sourceExtensions.map (base ++ ·) ++ [base ++ ".d.ts"]

def indexPaths (directory : String) : List String :=
  sourceExtensions.map fun e => if directory = "." then "index" ++ e else directory ++ "/" ++ ("index" ++ e)

theorem candidates_eq (base : String) :
    candidates base = fileSpellings base ++ sourceExtensions.map fun e => join base ("index" ++ e) := rfl

theorem isAbsolute_index (e : String) : isAbsolute ("index" ++ e) = false :=
  isAbsolute_append (isAbsolute_eq_false.mpr (by decide)) fun hempty => absurd hempty (by decide)

/-- Below the root, the index files are looked up under their paths. -/
theorem map_join_index {base : String} (hempty : [] ∉ parts base.toList) (hroot : base ≠ ".") :
    (sourceExtensions.map fun e => join base ("index" ++ e)) = indexPaths base := by
  have hne : base ≠ "" := by
    rintro rfl
    exact hempty (by decide)
  apply List.map_congr_left
  intro e _
  rw [if_neg hroot, join_of_relative hne (getLast?_ne_stroke hempty) (isAbsolute_index e)]

/-- No normal path is one under which the index files of the root are looked up. -/
theorem not_normal_join_root (e : String) : ¬Normal (join "." ("index" ++ e)) := by
  intro hnormal
  have hpoint : ['.'] ∈ parts (join "." ("index" ++ e)).toList := by
    rw [join_of_relative (by decide) (by decide) (isAbsolute_index e), String.append_assoc, String.toList_append,
      String.toList_append]
    have hfirst : ".".toList ++ ("/".toList ++ ("index" ++ e).toList) = ['.'] ++ '/' :: ("index" ++ e).toList := rfl
    rw [hfirst, parts_append_stroke]
    exact List.mem_append_left _ List.mem_cons_self
  exact (hnormal _ hpoint).2.1 rfl

/-- In a corpus of normal paths, a relative specifier of a directory below the root names the first of the directory's
index files that the corpus has, if no file of the corpus has the name of the directory. A specifier of the root
names nothing. -/
theorem directory_names_index (hc : ∀ path ∈ c.paths, Normal path) (horigin : origin ∈ c.paths)
    (hs : specifier.startsWith "." = true) {d : String} (hd : clean (join (directory origin) specifier) = d)
    (hfile : ∀ path ∈ fileSpellings d, path ∉ c.paths) :
    (d ≠ "." → c.resolve? origin specifier = (indexPaths d).find? c.contains) ∧
      (d = "." → c.resolve? origin specifier = none) := by
  have hrelative := isAbsolute_join_directory (hc origin horigin).isAbsolute (isAbsolute_of_relative hs)
  have hempty := nil_not_mem_parts_clean hrelative
  rw [hd] at hempty
  have hnone : (fileSpellings d).find? c.contains = none := by
    rw [List.find?_eq_none]
    intro path hpath hcontains
    exact hfile path hpath ((Table.contains_iff_mem_keys _ _).mp hcontains)
  rw [resolve?_of_specifiedPath? (specifiedPath?_of_relative origin hs), hd, candidates_eq, List.find?_append, hnone,
    Option.none_or]
  constructor
  · intro hroot
    rw [map_join_index hempty hroot]
  · rintro rfl
    rw [List.find?_eq_none]
    intro path hpath hcontains
    obtain ⟨e, _, rfl⟩ := List.mem_map.mp hpath
    exact not_normal_join_root e (hc _ ((Table.contains_iff_mem_keys _ _).mp hcontains))

/-- A directory with two index files, and one at the root. -/
def indexedCorpus : Corpus :=
  ofModules [{ path := "index.ts" }, { path := "main.ts" }, { path := "src/lib/index.js" },
    { path := "src/lib/index.tsx" }, { path := "src/app.ts" }]

theorem directory_names_index_nested :
    clean (join (directory "src/app.ts") "./lib/../lib/") = "src/lib" ∧
      indexedCorpus.resolve? "src/app.ts" "./lib/../lib/" = some "src/lib/index.tsx" := by
  have hd : clean (join (directory "src/app.ts") "./lib/../lib/") = "src/lib" := by decide +kernel
  have hfile : ∀ path ∈ fileSpellings "src/lib", path ∉ indexedCorpus.paths := by decide +kernel
  obtain ⟨hbelow, -⟩ := directory_names_index (by decide) (by decide) (by decide +kernel) hd hfile
  refine ⟨hd, ?_⟩
  rw [hbelow (by decide)]
  decide +kernel

/-- The index file at the root is there, and a specifier of the root does not name it. -/
theorem root_index_not_named :
    (∀ path ∈ indexedCorpus.paths, Normal path) ∧ clean (join (directory "main.ts") ".") = "." ∧
      (∀ path ∈ fileSpellings ".", path ∉ indexedCorpus.paths) ∧
      (indexPaths ".").find? indexedCorpus.contains = some "index.ts" ∧
      indexedCorpus.resolve? "main.ts" "." = none := by
  decide +kernel

end Indexes

end CorpusShape.Corpus
