import CorpusShape.Proofs.Loading

/-!
# The files that a scan finds

A walk decides at every level which directories it enters. What it lists can be said of whole paths: every path that
leads from the root through directories, none of them left out, to a file or to a link that leads to no directory. A
scan then takes those that are included, not excluded, and written in a known dialect, each of them once.
-/
namespace CorpusShape
open Syntax

def Entry.isListed (leads : Bool) : Entry → Bool
  | .file _ => true
  | .link _ => !leads
  | .directory _ => false

namespace Directory

theorem get?_of_mem {d : Directory} (h : (d.map (·.1)).Nodup) {name : String} {e : Entry} (he : (name, e) ∈ d) :
    d.get? name = some e := by
  induction d with
  | nil => cases he
  | cons x rest ih =>
    rw [List.map_cons, List.nodup_cons] at h
    rcases List.mem_cons.mp he with rfl | he
    · rw [get?, if_pos rfl]
    · have hne : x.1 ≠ name := fun hx => h.1 (hx ▸ List.mem_map_of_mem he)
      rw [get?, if_neg hne, ih h.2 he]

theorem at?_cons (d : Directory) (name next : String) (rest : List String) (e : Entry) :
    d.at? (name :: next :: rest) = some e ↔
      ∃ below, d.get? name = some (.directory below) ∧ at? below (next :: rest) = some e := by
  rw [at?]
  · cases hget : d.get? name with
    | none => simp
    | some entry => cases entry <;> simp
  · simp

theorem mem_filesIn_iff {leads : List String → Bool} {d : Directory} (h : (d.map (·.1)).Nodup) {path p : List String} :
    p ∈ filesIn leads path d ↔ ∃ name e, p = path ++ [name] ∧ d.get? name = some e ∧ e.isListed (leads p) = true := by
  unfold filesIn
  rw [List.mem_filterMap]
  constructor
  · rintro ⟨⟨name, e⟩, hmem, hp⟩
    have hget := get?_of_mem h hmem
    cases e with
    | file content =>
      cases hp
      exact ⟨name, _, rfl, hget, rfl⟩
    | link target =>
      dsimp only at hp
      split at hp
      · cases hp
      · rename_i hleads
        cases hp
        exact ⟨name, _, rfl, hget, by simpa [Entry.isListed] using hleads⟩
    | directory below => cases hp
  · rintro ⟨name, e, rfl, hget, hlisted⟩
    refine ⟨(name, e), mem_of_get? hget, ?_⟩
    cases e with
    | file content => rfl
    | link target =>
      have hleads : leads (path ++ [name]) = false := by simpa [Entry.isListed] using hlisted
      simp [hleads]
    | directory below => cases hlisted

end Directory

/-- The walk lists exactly the files at the end of paths whose directories are all entered. -/
theorem Entry.WellNamed.mem_walk_iff {leads : List String → Bool} {enters : String → Bool} {e : Entry}
    (h : e.WellNamed) {path p : List String} :
    p ∈ Entry.walk leads enters path e ↔
      ∃ (d : Directory) (names : List String) (f : Entry), e = .directory d ∧ p = path ++ names ∧
      (∀ name ∈ names.dropLast, enters name = true) ∧ d.at? names = some f ∧ f.isListed (leads p) = true := by
  induction h generalizing path p with
  | file content => simp [Entry.walk]
  | link target => simp [Entry.walk]
  | @directory d hnames _ _ ih =>
    rw [Entry.walk, walkBelow_eq, List.mem_append, Directory.mem_filesIn_iff hnames, List.mem_flatMap]
    constructor
    · rintro (⟨name, f, rfl, hget, hlisted⟩ | ⟨⟨name, e⟩, hmem, hp⟩)
      · exact ⟨d, [name], f, rfl, rfl, by simp, hget, hlisted⟩
      · split at hp
        · rename_i henters
          obtain ⟨below, names, f, rfl, rfl, hentered, hat, hlisted⟩ := (ih _ hmem).mp hp
          cases names with
          | nil =>
            -- At its own start a directory is no file.
            cases hat
            cases hlisted
          | cons next rest =>
            refine ⟨d, name :: next :: rest, f, rfl, by simp, ?_, ?_, hlisted⟩
            · rw [List.dropLast_cons_cons]
              exact List.forall_mem_cons.mpr ⟨henters, hentered⟩
            · exact (Directory.at?_cons d name next rest f).mpr ⟨below, Directory.get?_of_mem hnames hmem, hat⟩
        · cases hp
    · rintro ⟨d', names, f, heq, rfl, hentered, hat, hlisted⟩
      cases heq
      cases names with
      | nil =>
        cases hat
        cases hlisted
      | cons name rest =>
        cases rest with
        | nil => exact .inl ⟨name, f, rfl, hat, hlisted⟩
        | cons next rest =>
          obtain ⟨below, hget, hat⟩ := (Directory.at?_cons d name next rest f).mp hat
          rw [List.dropLast_cons_cons] at hentered
          obtain ⟨henters, hentered⟩ := List.forall_mem_cons.mp hentered
          refine .inr ⟨(name, .directory below), Directory.mem_of_get? hget, ?_⟩
          rw [if_pos henters]
          exact (ih _ (Directory.mem_of_get? hget)).mpr
            ⟨below, next :: rest, f, rfl, by simp, hentered, hat, by simpa using hlisted⟩

namespace Files

/-- From the root the names lead through directories to a file, or to a link that leads to no directory. -/
inductive FileBelow (files : Files) (root : String) (names : List String) : Prop
  | file {place : List String} {d : Directory} {content : List UInt8} :
      files.locate root = .ok (place, some (.directory d)) → d.at? names = some (.file content) →
      FileBelow files root names
  | link {place : List String} {d : Directory} {target : String} :
      files.locate root = .ok (place, some (.directory d)) → d.at? names = some (.link target) →
      (∀ end_ e, follow files.top linkLimit place names ≠ .ok (end_, some (.directory e))) →
      FileBelow files root names

variable {files : Files} {root : String} {place : List String} {d : Directory}

def leadsToDirectory (files : Files) (place names : List String) : Bool :=
  match follow files.top linkLimit place names with
  | .ok (_, some (.directory _)) => true
  | _ => false

theorem leadsToDirectory_eq_false_iff {names : List String} :
    files.leadsToDirectory place names = false ↔
      ∀ end_ e, follow files.top linkLimit place names ≠ .ok (end_, some (.directory e)) := by
  unfold leadsToDirectory
  split
  · rename_i end_ e heq
    simp only [Bool.true_eq_false, false_iff, not_forall, not_not]
    exact ⟨end_, e, heq⟩
  · rename_i hother
    simp only [true_iff]
    exact hother

theorem fileBelow_iff (hroot : files.locate root = .ok (place, some (.directory d))) {names : List String} :
    files.FileBelow root names ↔ ∃ e, d.at? names = some e ∧ e.isListed (files.leadsToDirectory place names) = true := by
  constructor
  · rintro (⟨hroot', hat⟩ | ⟨hroot', hat, hleads⟩)
    · rw [hroot] at hroot'
      cases hroot'
      exact ⟨_, hat, rfl⟩
    · rw [hroot] at hroot'
      cases hroot'
      exact ⟨_, hat, by rw [Entry.isListed, leadsToDirectory_eq_false_iff.mpr hleads]; rfl⟩
  · rintro ⟨e, hat, hlisted⟩
    cases e with
    | file content => exact .file hroot hat
    | link target =>
      refine .link hroot hat (leadsToDirectory_eq_false_iff.mp ?_)
      simpa [Entry.isListed] using hlisted
    | directory below => cases hlisted

theorem FileBelow.locate {names : List String} (h : files.FileBelow root names) :
    ∃ place d, files.locate root = .ok (place, some (.directory d)) := by
  cases h with
  | file hroot => exact ⟨_, _, hroot⟩
  | link hroot => exact ⟨_, _, hroot⟩

/-- The names on the way to a file hold no stroke. -/
theorem FileBelow.names_of_wellNamed (hfiles : (Entry.directory files.top).WellNamed) {names : List String}
    (h : files.FileBelow root names) : names ≠ [] ∧ ∀ name ∈ names, '/' ∉ name.toList := by
  obtain ⟨place, d, hroot⟩ := h.locate
  obtain ⟨f, hat, hlisted⟩ := (fileBelow_iff hroot).mp h
  have hd := Directory.wellNamed_at? hfiles (faithful_locate files root place _ hroot)
  have hwalk : names ∈ Entry.walk (files.leadsToDirectory place) (fun _ => true) [] (.directory d) :=
    hd.mem_walk_iff.mpr ⟨d, names, f, rfl, rfl, fun _ _ => rfl, hat, hlisted⟩
  obtain ⟨name, rest, rfl, hslash⟩ := hd.continues_of_mem_walk hwalk
  exact ⟨List.cons_ne_nil _ _, hslash⟩

/-- A file below a root is met on the walk if none of its directories is left out. -/
theorem mem_walk_iff (hfiles : (Entry.directory files.top).WellNamed) {enters : String → Bool} {path : String} :
    path ∈ files.walk enters root ↔ ∃ names, files.FileBelow root names ∧ path = String.intercalate "/" names ∧
      ∀ name ∈ names.dropLast, enters name = true := by
  unfold walk
  split
  · rename_i place d hroot
    have hd := Directory.wellNamed_at? hfiles (faithful_locate files root place _ hroot)
    rw [List.mem_map]
    constructor
    · rintro ⟨names, hwalk, rfl⟩
      obtain ⟨d', _, f, heq, rfl, hentered, hat, hlisted⟩ := hd.mem_walk_iff.mp hwalk
      cases heq
      exact ⟨names, (fileBelow_iff hroot).mpr ⟨f, hat, hlisted⟩, rfl, hentered⟩
    · rintro ⟨names, hfile, rfl, hentered⟩
      obtain ⟨f, hat, hlisted⟩ := (fileBelow_iff hroot).mp hfile
      exact ⟨names, hd.mem_walk_iff.mpr ⟨d, names, f, rfl, rfl, hentered, hat, hlisted⟩, rfl⟩
  · rename_i hnone
    constructor
    · intro h
      cases h
    · rintro ⟨names, hfile, -⟩
      obtain ⟨place, d, hroot⟩ := hfile.locate
      exact absurd hroot (hnone place d)

end Files

def smallExtension (path : String) : String := String.ofList ((Path.extension path).toList.map Char.toLower)

def extensionDialects : List (String × Dialect) :=
  [(".ts", .typescript), (".mts", .typescript), (".cts", .typescript), (".tsx", .tsx), (".js", .javascript),
    (".mjs", .javascript), (".cjs", .javascript), (".jsx", .javascript)]

theorem dialectOf?_eq_some_iff {path : String} {dialect : Dialect} :
    dialectOf? path = some dialect ↔ (smallExtension path, dialect) ∈ extensionDialects := by
  unfold dialectOf? smallExtension
  generalize String.ofList ((Path.extension path).toList.map Char.toLower) = s
  split
  case h_9 => simp_all [extensionDialects]
  all_goals cases dialect <;> decide

theorem mem_selectedFiles_iff {included excluded : String → Bool} {paths : List String} {path : String}
    {dialect : Dialect} :
    (path, dialect) ∈ selectedFiles included excluded paths ↔ path ∈ paths ∧ included path = true ∧
      excluded path = false ∧ (smallExtension path, dialect) ∈ extensionDialects := by
  rw [← dialectOf?_eq_some_iff, selectedFiles, List.mem_filterMap]
  constructor
  · rintro ⟨p, hp, hselected⟩
    split at hselected
    · rename_i hchosen
      obtain ⟨d, hd, heq⟩ := Option.map_eq_some_iff.mp hselected
      cases heq
      simp only [Bool.and_eq_true, Bool.not_eq_true'] at hchosen
      exact ⟨hp, hchosen.1, hchosen.2, hd⟩
    · cases hselected
  · rintro ⟨hp, hincluded, hexcluded, hdialect⟩
    exact ⟨path, hp, by simp [hincluded, hexcluded, hdialect]⟩

/-- Rules that decide on every path select what their predicates select. -/
theorem FileRules.Decides.scan?_eq {rules : FileRules} {included excluded : String → Bool}
    (h : rules.Decides included excluded) (files : Files) (root : String) :
    rules.scan? files root = some (selectedFiles included excluded (files.sourcePaths root)) := by
  have hdecided : ∀ path, (rules.choice path == .undecided) = false := by
    intro path
    rw [h.choice_eq]
    cases included path <;> cases excluded path <;> cases dialectOf? path <;> rfl
  unfold FileRules.scan? selectedFiles
  have hnone : ((files.sourcePaths root).map fun path => (path, rules.choice path)).any (·.2 == .undecided) = false := by
    simp [hdecided]
  simp only [hnone, Bool.false_eq_true, if_false, List.filterMap_map, Option.some.injEq]
  refine List.filterMap_congr fun path _ => ?_
  rw [Function.comp_apply]
  rw [h.choice_eq]
  cases included path <;> cases excluded path <;> cases dialectOf? path <;> rfl

/-- A scan finds exactly the files below the root that lie in no vendor directory, are included and not excluded, and
have the extension of a dialect, each with its dialect and once; different files have different paths. -/
theorem scan_finds_selected {files : Files} (hfiles : (Entry.directory files.top).WellNamed) (root : String)
    (included excluded : String → Bool) :
    let found := selectedFiles included excluded (files.sourcePaths root)
    (∀ rules : FileRules, rules.Decides included excluded → rules.scan? files root = some found) ∧
      (∀ path dialect, (path, dialect) ∈ found ↔ ∃ names, files.FileBelow root names ∧
        path = String.intercalate "/" names ∧ (∀ name ∈ names.dropLast, name ∉ vendorDirectories) ∧
        included path = true ∧ excluded path = false ∧ (smallExtension path, dialect) ∈ extensionDialects) ∧
      (found.map (·.1)).Nodup ∧
      ∀ names others, files.FileBelow root names → files.FileBelow root others →
        String.intercalate "/" names = String.intercalate "/" others → names = others := by
  intro found
  refine ⟨fun rules h => h.scan?_eq files root, fun path dialect => ?_, ?_, fun names others hn ho heq => ?_⟩
  · rw [mem_selectedFiles_iff, Files.sourcePaths, Files.mem_walk_iff hfiles]
    simp only [Bool.not_eq_true', List.contains_eq_mem, decide_eq_false_iff_not]
    constructor
    · rintro ⟨⟨names, hfile, hpath, hentered⟩, hselected⟩
      exact ⟨names, hfile, hpath, hentered, hselected⟩
    · rintro ⟨names, hfile, hpath, hentered, hselected⟩
      exact ⟨⟨names, hfile, hpath, hentered⟩, hselected⟩
  · exact (selectedFiles_sublist included excluded _).nodup (Files.nodup_sourcePaths hfiles root)
  · obtain ⟨hne, hslash⟩ := hn.names_of_wellNamed hfiles
    obtain ⟨hne', hslash'⟩ := ho.names_of_wellNamed hfiles
    exact intercalate_inj hne hne' hslash hslash' heq

section LinkedTree

/-- A capital extension, a link to a directory, a link to nothing, and a package. -/
def linkedTree : Files :=
  { top := [("src", .directory [("A.TS", .file []), ("deep", .directory [("b.mjs", .file [])]), ("here", .link "deep"),
      ("lost.ts", .link "nowhere"), ("node_modules", .directory [("c.ts", .file [])])])] }

theorem wellNamed_linkedTree : (Entry.directory linkedTree.top).WellNamed := by
  refine .directory (by decide) (by decide) (List.forall_mem_singleton.mpr ?_)
  refine .directory (by decide) (by decide) ?_
  simp only [List.forall_mem_cons]
  refine ⟨.file _, .directory (by decide) (by decide) ?_, .link _, .link _,
    .directory (by decide) (by decide) ?_, by simp⟩
  · exact List.forall_mem_singleton.mpr (.file _)
  · exact List.forall_mem_singleton.mpr (.file _)

theorem scan_finds_selected_linkedTree :
    (Entry.directory linkedTree.top).WellNamed ∧
      selectedFiles (fun _ => true) (fun _ => false) (linkedTree.sourcePaths "/") =
        [("src/A.TS", .typescript), ("src/lost.ts", .typescript), ("src/deep/b.mjs", .javascript)] ∧
      ∃ names, linkedTree.FileBelow "/" names ∧ "src/deep/b.mjs" = String.intercalate "/" names := by
  have hfound : selectedFiles (fun _ => true) (fun _ => false) (linkedTree.sourcePaths "/") =
      [("src/A.TS", .typescript), ("src/lost.ts", .typescript), ("src/deep/b.mjs", .javascript)] := by
    decide +kernel
  obtain ⟨-, hfinds, -⟩ := scan_finds_selected wellNamed_linkedTree "/" (fun _ => true) fun _ => false
  obtain ⟨names, hfile, hpath, -⟩ := (hfinds "src/deep/b.mjs" .javascript).mp (by rw [hfound]; decide)
  exact ⟨wellNamed_linkedTree, hfound, names, hfile, hpath⟩

end LinkedTree

end CorpusShape
