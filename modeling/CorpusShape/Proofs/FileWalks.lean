import CorpusShape.Corpus.Load
import Mathlib.Data.List.Nodup

/-!
# Walks over files

In a tree of files every directory has distinct names without slashes. Following a path never leaves the tree, so that
the same holds below every directory that is found, and the walk over it meets no path twice: not as lists of names,
and not as texts, since a text with slashes can be split again.
-/
namespace CorpusShape

/-- In every directory the names are distinct and hold no slash. -/
inductive Entry.WellNamed : Entry → Prop
  | file (content : List UInt8) : WellNamed (.file content)
  | link (target : String) : WellNamed (.link target)
  | directory {d : List (String × Entry)} : (d.map (·.1)).Nodup → (∀ x ∈ d, '/' ∉ x.1.toList) →
      (∀ x ∈ d, WellNamed x.2) → WellNamed (.directory d)

namespace Directory

theorem mem_of_get? {d : Directory} {name : String} {e : Entry} (h : d.get? name = some e) : (name, e) ∈ d := by
  induction d with
  | nil => cases h
  | cons x rest ih =>
    rw [get?] at h
    split at h
    · rename_i hname
      cases h
      exact hname ▸ List.mem_cons_self
    · exact List.mem_cons_of_mem _ (ih h)

/-- What is found in a tree is well named if the tree is. -/
theorem wellNamed_at? {d : Directory} (hd : (Entry.directory d).WellNamed) {path : List String} {e : Entry}
    (h : d.at? path = some e) : e.WellNamed := by
  have hinside : ∀ {d : Directory} {name : String} {e : Entry}, (Entry.directory d).WellNamed → d.get? name = some e →
      e.WellNamed := by
    intro d name e hd he
    cases hd with
    | directory _ _ hbelow => exact hbelow _ (mem_of_get? he)
  fun_induction at? d path with
  | case1 d =>
    cases h
    exact hd
  | case2 d name => exact hinside hd h
  | case3 d name rest _ below hget ih => exact ih (hinside hd hget) h
  | case4 => cases h

end Directory

namespace Files

/-- Where a path leads, there is what the tree has there. -/
def Faithful (top : Directory) (r : Except FileError Place) : Prop :=
  ∀ place e, r = .ok (place, some e) → top.at? place = some e

theorem faithful_error (top : Directory) (e : FileError) : Faithful top (.error e) := fun _ _ h => nomatch h

theorem faithful_descend {top : Directory} {jump : List String → List String → Except FileError Place}
    (hjump : ∀ done steps, Faithful top (jump done steps)) (done steps : List String) :
    Faithful top (descend top jump done steps) := by
  induction steps generalizing done with
  | nil =>
    rw [descend]
    split
    · rename_i e he
      intro place e' h
      cases h
      exact he
    · exact faithful_error top _
  | cons step rest ih =>
    rw [descend]
    split
    · exact faithful_error top _
    · split
      · exact ih _
      · split
        · split
          · exact faithful_error top _
          · split
            · exact fun _ _ h => nomatch h
            · exact faithful_error top _
        · exact hjump _ _
        · exact ih _
    · exact faithful_error top _

theorem faithful_follow (top : Directory) (links : Nat) (done steps : List String) :
    Faithful top (follow top links done steps) := by
  induction links generalizing done steps with
  | zero => exact faithful_descend (fun _ _ => faithful_error top _) done steps
  | succ links ih => exact faithful_descend ih done steps

theorem locate_eq_ok_iff {f : Files} {path : String} {r : Place} :
    f.locate path = .ok r ↔
      refusal? path = none ∧ follow f.top linkLimit (f.start path) (Path.steps path) = .ok r := by
  unfold locate
  cases refusal? path <;> simp

theorem faithful_locate (f : Files) (path : String) : Faithful f.top (f.locate path) :=
  fun place e h => faithful_follow _ _ _ _ place e (locate_eq_ok_iff.mp h).2

end Files

section Walks
variable {leads : List String → Bool} {enters : String → Bool}

theorem filesIn_sublist (path : List String) (d : Directory) :
    (Directory.filesIn leads path d).Sublist (d.map fun x => path ++ [x.1]) := by
  unfold Directory.filesIn
  induction d with
  | nil => exact .slnil
  | cons x rest ih =>
    rw [List.filterMap_cons, List.map_cons]
    split
    · exact ih.cons _
    · rename_i p hp
      have hpath : p = path ++ [x.1] := by
        rcases x with ⟨name, content | target | below⟩
        · exact (Option.some.inj hp).symm
        · dsimp only at hp
          split at hp
          · cases hp
          · exact (Option.some.inj hp).symm
        · cases hp
      rw [hpath]
      exact ih.cons_cons _

theorem walkBelow_eq (path : List String) (d : Directory) :
    Directory.walkBelow leads enters path d =
      d.flatMap fun x => if enters x.1 then Entry.walk leads enters (path ++ [x.1]) x.2 else [] := by
  induction d with
  | nil => rfl
  | cons x rest ih => rw [Directory.walkBelow, ih, List.flatMap_cons]

/-- The path continues another one, by names without slashes. -/
def Continues (path p : List String) : Prop := ∃ name q, p = path ++ name :: q ∧ ∀ s ∈ name :: q, '/' ∉ s.toList

theorem mem_filesIn {path p : List String} {d : Directory} (hp : p ∈ Directory.filesIn leads path d) :
    ∃ x ∈ d, p = path ++ [x.1] := by
  obtain ⟨x, hx, rfl⟩ := List.mem_map.mp ((filesIn_sublist path d).subset hp)
  exact ⟨x, hx, rfl⟩

/-- The paths of a walk lie below its start. -/
theorem Entry.WellNamed.continues_of_mem_walk {e : Entry} (h : e.WellNamed) {path p : List String}
    (hp : p ∈ Entry.walk leads enters path e) : Continues path p := by
  induction h generalizing path p with
  | file content => cases hp
  | link target => cases hp
  | @directory d _ hslash _ ih =>
    rw [Entry.walk, walkBelow_eq] at hp
    rcases List.mem_append.mp hp with hp | hp
    · obtain ⟨x, hx, rfl⟩ := mem_filesIn hp
      exact ⟨x.1, [], rfl, by simpa using hslash x hx⟩
    · obtain ⟨x, hx, hp⟩ := List.mem_flatMap.mp hp
      split at hp
      · obtain ⟨name, q, rfl, hq⟩ := ih x hx hp
        exact ⟨x.1, name :: q, by simp, List.forall_mem_cons.mpr ⟨hslash x hx, hq⟩⟩
      · cases hp

theorem nodup_filesIn {d : Directory} (h : (d.map (·.1)).Nodup) (path : List String) :
    (Directory.filesIn leads path d).Nodup := by
  have hmap : d.map (fun x => path ++ [x.1]) = (d.map (·.1)).map fun name => path ++ [name] := by
    rw [List.map_map]
    rfl
  refine (filesIn_sublist path d).nodup ?_
  rw [hmap]
  exact h.map fun a b hab => by simpa using hab

/-- No path of a walk is met twice. -/
theorem Entry.WellNamed.nodup_walk {e : Entry} (h : e.WellNamed) (path : List String) :
    (Entry.walk leads enters path e).Nodup := by
  induction h generalizing path with
  | file content => exact List.nodup_nil
  | link target => exact List.nodup_nil
  | @directory d hnames _ hinside ih =>
    have hbelow : ∀ x ∈ d, ∀ p ∈ (if enters x.1 then Entry.walk leads enters (path ++ [x.1]) x.2 else []),
        ∃ name q, p = path ++ x.1 :: name :: q := by
      intro x hx p hp
      split at hp
      · obtain ⟨name, q, rfl, -⟩ := (hinside x hx).continues_of_mem_walk hp
        exact ⟨name, q, by simp⟩
      · cases hp
    rw [Entry.walk, walkBelow_eq]
    refine List.nodup_append.mpr ⟨nodup_filesIn hnames path, List.nodup_flatMap.mpr ⟨?_, ?_⟩, ?_⟩
    · intro x hx
      split
      · exact ih x hx _
      · exact List.nodup_nil
    · -- Paths below different names differ where the names stand.
      refine (List.pairwise_map.mp hnames).imp_of_mem fun {x y} hx hy hne p hpx hpy => ?_
      obtain ⟨_, _, hpx⟩ := hbelow x hx p hpx
      obtain ⟨_, _, hpy⟩ := hbelow y hy p hpy
      rw [hpx, List.append_cancel_left_eq] at hpy
      exact hne (List.cons.inj hpy).1
    · intro p hp q hq hpq
      obtain ⟨x, -, rfl⟩ := mem_filesIn hp
      obtain ⟨y, hy, hq⟩ := List.mem_flatMap.mp hq
      obtain ⟨_, _, rfl⟩ := hbelow y hy q hq
      simp at hpq

theorem intercalate_inj {ps qs : List String} (hps : ps ≠ []) (hqs : qs ≠ []) (hp : ∀ s ∈ ps, '/' ∉ s.toList)
    (hq : ∀ s ∈ qs, '/' ∉ s.toList) (h : String.intercalate "/" ps = String.intercalate "/" qs) : ps = qs := by
  have hsplit : ∀ {ns : List String}, ns ≠ [] → (∀ s ∈ ns, '/' ∉ s.toList) →
      (String.intercalate "/" ns).toList.splitOn '/' = ns.map String.toList := by
    intro ns hne hns
    rw [String.toList_intercalate]
    exact List.splitOn_intercalate '/' (by simpa using hns) (by simpa using hne)
  have hlists := (hsplit hps hp).symm.trans ((congrArg (·.toList.splitOn '/') h).trans (hsplit hqs hq))
  exact List.map_injective_iff.mpr (fun _ _ => String.toList_inj.mp) hlists

end Walks

/-- No path below a root is visited twice. -/
theorem Files.nodup_sourcePaths {files : Files} (h : (Entry.directory files.top).WellNamed) (root : String) :
    (files.sourcePaths root).Nodup := by
  unfold Files.sourcePaths Files.walk
  split
  · rename_i place d hlocate
    have hd := Directory.wellNamed_at? h (Files.faithful_locate files root place _ hlocate)
    refine (List.nodup_map_iff_inj_on (hd.nodup_walk [])).mpr fun p hp q hq hpq => ?_
    obtain ⟨_, _, rfl, hpslash⟩ := hd.continues_of_mem_walk hp
    obtain ⟨_, _, rfl, hqslash⟩ := hd.continues_of_mem_walk hq
    exact intercalate_inj (by simp) (by simp) hpslash hqslash hpq
  · exact List.nodup_nil

end CorpusShape
