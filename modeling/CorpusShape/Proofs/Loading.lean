import CorpusShape.Proofs.Extents
import CorpusShape.Proofs.FileWalks

/-!
# Loading all files or none

The files that are selected are those of the walk that are included, not excluded, and written in a known dialect.
They are read one after another in the order of the walk. Loading either stops at the first of them that has no module,
or gives a corpus with the module of each of them and no other, in that order.
-/
namespace CorpusShape
open Syntax

/-- The rules decide on every path, as the two predicates say. -/
structure FileRules.Decides (rules : FileRules) (included excluded : String → Bool) : Prop where
  includes (path : String) : rules.includes? path = some (included path)
  excludes (path : String) : rules.excludes? path = some (excluded path)

theorem FileRules.Decides.choice_eq {rules : FileRules} {included excluded : String → Bool}
    (h : rules.Decides included excluded) (path : String) :
    rules.choice path = if included path then
      if excluded path then .excluded else (dialectOf? path).elim .skipped .selected else .skipped := by
  unfold FileRules.choice
  rw [h.includes, h.excludes]
  cases included path <;> cases excluded path <;> cases dialectOf? path <;> rfl

namespace FileRules

def includes (r : FileRules) (path : String) : Bool := (r.includes? path).getD false

def excludes (r : FileRules) (path : String) : Bool := (r.excludes? path).getD false

/-- Rules whose patterns could be read decide on every path. -/
theorem decides_of_isSome {r : FileRules} (hincluded : r.included.isSome = true) (hexcluded : r.excluded.isSome = true) :
    r.Decides r.includes r.excludes := by
  obtain ⟨g, hg⟩ := Option.isSome_iff_exists.mp hincluded
  obtain ⟨h, hh⟩ := Option.isSome_iff_exists.mp hexcluded
  constructor
  · exact fun path => by simp [includes, includes?, hg]
  · exact fun path => by simp [excludes, excludes?, hh]

end FileRules

def selectedFiles (included excluded : String → Bool) (paths : List String) : List (String × Dialect) :=
  paths.filterMap fun path =>
    if included path && !excluded path then (dialectOf? path).map (path, ·) else none

theorem selectedFiles_sublist (included excluded : String → Bool) (paths : List String) :
    ((selectedFiles included excluded paths).map (·.1)).Sublist paths := by
  induction paths with
  | nil => exact .slnil
  | cons path paths ih =>
    unfold selectedFiles at ih ⊢
    rw [List.filterMap_cons]
    split
    · exact ih.cons _
    · rename_i f hf
      split at hf
      · obtain ⟨_, -, rfl⟩ := Option.map_eq_some_iff.mp hf
        exact ih.cons_cons _
      · cases hf

section Files
variable {files : Files} {root path : String} {dialect : Dialect}

def HasText (files : Files) (root path text : String) : Prop :=
  ∃ bytes, files.read (Path.under root path) = .ok bytes ∧ Utf8.decode bytes = .ok text

/-- A file has a text, and the text a tree without a fault. -/
def Loads (files : Files) (root path : String) (dialect : Dialect) : Prop :=
  ∃ text tree, HasText files root path text ∧ parse dialect text = .ok tree ∧ tree.hasFault = false

inductive Fails (files : Files) (root path : String) (dialect : Dialect) : ParseFailure → Prop
  | unreadable {e : FileFailure} : files.read (Path.under root path) = .error e →
      Fails files root path dialect { path, reason := .unreadable e.message }
  | notUtf8 {bytes : List UInt8} {fault : Utf8.Fault} : files.read (Path.under root path) = .ok bytes →
      Utf8.decode bytes = .error fault → Fails files root path dialect { path, reason := .notUtf8 fault.message }
  | unparsed {text : String} {offset : Nat} : HasText files root path text → parse dialect text = .error offset →
      Fails files root path dialect
        { path, reason := .syntaxError, line := some ((Source.ofString text).line offset) }
  | faulty {text : String} {tree : Node} : HasText files root path text → parse dialect text = .ok tree →
      tree.hasFault = true →
      Fails files root path dialect
        { path, reason := .syntaxError, line := tree.firstFault?.map fun n => (Source.ofString text).line n.start }

theorem Fails.path_eq {failure : ParseFailure} (h : Fails files root path dialect failure) : failure.path = path := by
  cases h <;> rfl

theorem ofTree_eq_error {tree : Node} (h : tree.hasFault = true) (path text : String) :
    Module.ofTree path text tree = .error
      { path, reason := .syntaxError, line := tree.firstFault?.map fun n => (Source.ofString text).line n.start } := by
  rw [Module.ofTree, h]
  rfl

/-- The length of the text of a file and the size of its tree, as far as it has them. -/
def fileExtent (files : Files) (root : String) (f : String × Dialect) : Nat :=
  match files.read (Path.under root f.1) with
  | .error _ => 0
  | .ok bytes =>
    match Utf8.decode bytes with
    | .error _ => 0
    | .ok text => text.length + ((parse f.2 text).toOption.elim 0 Node.size)

/-- A file has a module, of its path and no more than its extent allows, or a reason for having none. -/
theorem Module.ofFile_cases (files : Files) (root path : String) (dialect : Dialect) :
    (∃ m, Module.ofFile files root path dialect = .ok m ∧ Loads files root path dialect ∧ m.path = path ∧
      m.extent ≤ 4 * fileExtent files root (path, dialect)) ∨
    ∃ failure, Module.ofFile files root path dialect = .error failure ∧ Fails files root path dialect failure := by
  unfold Module.ofFile fileExtent
  cases hread : files.read (Path.under root path) with
  | error e => exact .inr ⟨_, rfl, .unreadable hread⟩
  | ok bytes =>
    cases hdecode : Utf8.decode bytes with
    | error fault => exact .inr ⟨_, by simp only [hdecode], .notUtf8 hread hdecode⟩
    | ok text =>
      have htext : HasText files root path text := ⟨bytes, hread, hdecode⟩
      dsimp only
      rw [hdecode]
      dsimp only
      unfold Module.ofText
      cases hparse : parse dialect text with
      | error offset => exact .inr ⟨_, rfl, .unparsed htext hparse⟩
      | ok tree =>
        cases hfault : tree.hasFault with
        | true => exact .inr ⟨_, ofTree_eq_error hfault path text, .faulty htext hparse hfault⟩
        | false =>
          have hextent := extent_extract path text tree
          refine .inl ⟨_, ofTree_eq_ok hfault path text, ⟨text, tree, htext, hparse, hfault⟩,
            (source_extract path text tree).1, Nat.le_trans hextent ?_⟩
          rw [Except.toOption, Option.elim_some]
          omega

end Files

section Corpora
variable {files : Files} {root : String}

/-- Adds the module of a file, if it has one. -/
def Corpus.addRead (c : Corpus) : Except ParseFailure Module → Except LoadError Corpus
  | .ok m => .ok (c.add m)
  | .error failure => .error (.unreadable failure)

def Corpus.addFiles (files : Files) (root : String) (c : Corpus) (fs : List (String × Dialect)) :
    Except LoadError Corpus :=
  fs.foldlM (fun c f => c.addRead (Module.ofFile files root f.1 f.2)) c

theorem Corpus.addFiles_cons (c : Corpus) (f : String × Dialect) (fs : List (String × Dialect)) :
    c.addFiles files root (f :: fs) =
      (c.addRead (Module.ofFile files root f.1 f.2)).bind fun d => d.addFiles files root fs := by
  unfold addFiles
  rw [List.foldlM_cons]
  rfl

/-- Only the selected files matter to the visits. -/
theorem Visit.corpus_visits {rules : FileRules} {included excluded : String → Bool}
    (h : rules.Decides included excluded) (files : Files) (root : String) :
    Visit.corpus (rules.visits files root) =
      Corpus.addFiles files root {} (selectedFiles included excluded (files.sourcePaths root)) := by
  unfold Visit.corpus FileRules.visits
  generalize files.sourcePaths root = paths
  generalize ({} : Corpus) = c
  -- A path that is not selected leaves the corpus as it is; the others are read on both sides.
  induction paths generalizing c with
  | nil => rfl
  | cons path paths ih =>
    rw [List.map_cons, List.foldlM_cons, selectedFiles, List.filterMap_cons, Visit.of, h.choice_eq]
    cases included path with
    | false => exact ih c
    | true =>
      cases excluded path with
      | true => exact ih c
      | false =>
        cases dialectOf? path with
        | none => exact ih c
        | some dialect =>
          simp only [if_true, Bool.false_eq_true, if_false, Option.elim_some, Bool.not_false, Bool.and_true,
            Option.map_some, Corpus.addFiles_cons]
          generalize Module.ofFile files root path dialect = r
          cases r with
          | ok m => exact ih (c.add m)
          | error failure => rfl

/-- The files are loaded up to the first that fails, or all of them. -/
theorem Corpus.addFiles_cases (files : Files) (root : String) (fs : List (String × Dialect)) (c : Corpus) :
    (∃ before path dialect after failure, fs = before ++ (path, dialect) :: after ∧
      (∀ f ∈ before, Loads files root f.1 f.2) ∧ Fails files root path dialect failure ∧
      c.addFiles files root fs = .error (.unreadable failure)) ∨
    ((∀ f ∈ fs, Loads files root f.1 f.2) ∧ ∃ ms : List Module,
      c.addFiles files root fs = .ok (ms.foldl Corpus.add c) ∧ ms.map (·.path) = fs.map (·.1) ∧
      (ms.map Module.extent).sum ≤ 4 * (fs.map (fileExtent files root)).sum) := by
  induction fs generalizing c with
  | nil => exact .inr ⟨by simp, [], rfl, rfl, by simp⟩
  | cons f fs ih =>
    obtain ⟨path, dialect⟩ := f
    rw [Corpus.addFiles_cons]
    obtain ⟨m, hm, hloads, hpath, hextent⟩ | ⟨failure, hfailure, hfails⟩ := Module.ofFile_cases files root path dialect
    · rw [hm]
      obtain ⟨before, p, d, after, failure, rfl, hbefore, hfails, hrest⟩ | ⟨hall, ms, hrest, hpaths, hextents⟩ :=
        ih (c.add m)
      · exact .inl ⟨(path, dialect) :: before, p, d, after, failure, rfl,
          List.forall_mem_cons.mpr ⟨hloads, hbefore⟩, hfails, hrest⟩
      · refine .inr ⟨List.forall_mem_cons.mpr ⟨hloads, hall⟩, m :: ms, hrest, ?_, ?_⟩
        · rw [List.map_cons, List.map_cons, hpath, hpaths]
        · rw [List.map_cons, List.map_cons, List.sum_cons, List.sum_cons]
          omega
    · rw [hfailure]
      exact .inl ⟨[], path, dialect, fs, failure, rfl, by simp, hfails, rfl⟩

/-- Modules with distinct paths stand in a corpus as they were added. -/
theorem Corpus.toList_ofModules {ms : List Module} (h : (ms.map (·.path)).Nodup) : (ofModules ms).toList = ms := by
  have hfold : ∀ (ms : List Module) (c : Corpus), (c.paths ++ ms.map (·.path)).Nodup →
      (ms.foldl add c).toList = c.toList ++ ms := by
    intro ms
    induction ms with
    | nil => exact fun c _ => (List.append_nil _).symm
    | cons m ms ih =>
      intro c hnodup
      have hfresh : m.path ∉ c.paths := fun hm =>
        (List.nodup_append.mp hnodup).2.2 _ hm _ List.mem_cons_self rfl
      have hadd : c.add m = ⟨c.modules ++ [(m.path, m)]⟩ := congrArg Corpus.mk (Table.put_of_not_mem hfresh m)
      rw [List.foldl_cons, hadd, ih]
      · simp [toList]
      · simpa [paths, Table.keys] using hnodup
  exact hfold ms {} (by simpa [paths, Table.keys] using h)

end Corpora

end CorpusShape
