import CorpusShape.Proofs.ScannedFiles

/-!
# What writing does to a tree of files

A tree only grows: directories and links stay where they are, and a file stays a file. So a path that leads to a file
leads to the same place afterwards, through all its links. Making a directory leaves every file and link as it was, and
writing a file changes nothing but the place to which its path leads. What was written is read again, until another path
that leads to the same place is written.
-/
namespace CorpusShape

def Entry.at? : Entry → List String → Option Entry
  | e, [] => some e
  | .directory d, rest => Directory.at? d rest
  | _, _ => none

namespace Directory
variable {d : Directory} {name other : String} {e : Entry} {path place : List String}

@[simp] theorem get?_put_self (d : Directory) (name : String) (e : Entry) : (d.put name e).get? name = some e := by
  induction d with
  | nil => simp [put, get?]
  | cons x rest ih =>
    rw [put]
    split
    · simp [get?]
    · split
      · simp [get?]
      · rename_i hname _
        rw [get?, if_neg hname, ih]

theorem get?_put_of_ne (h : other ≠ name) (d : Directory) (e : Entry) : (d.put name e).get? other = d.get? other := by
  induction d with
  | nil => simp [put, get?, Ne.symm h]
  | cons x rest ih =>
    rw [put]
    split
    · rename_i hname
      simp [get?, Ne.symm h, hname]
    · split
      · rw [get?, if_neg (Ne.symm h)]
      · rw [get?, get?, ih]

theorem at?_directory (d : Directory) (path : List String) : (Entry.directory d).at? path = d.at? path := by
  cases path <;> rfl

theorem at?_step (d : Directory) (name : String) (rest : List String) :
    d.at? (name :: rest) = (d.get? name).bind (·.at? rest) := by
  cases rest with
  | nil =>
    rw [at?]
    cases d.get? name with
    | none => rfl
    | some e => cases e <;> rfl
  | cons next rest =>
    rw [at?]
    · cases d.get? name with
      | none => rfl
      | some e => cases e <;> rfl
    · simp

theorem at?_append (d : Directory) (path rest : List String) :
    d.at? (path ++ rest) = (d.at? path).bind (·.at? rest) := by
  induction path generalizing d with
  | nil => exact (at?_directory d rest).symm
  | cons name path ih =>
    rw [List.cons_append, at?_step, at?_step]
    cases hget : d.get? name with
    | none => rfl
    | some e =>
      cases e with
      | directory below =>
        simp only [Option.bind_some, at?_directory]
        exact ih below
      | file content => cases path <;> cases rest <;> rfl
      | link target => cases path <;> cases rest <;> rfl

theorem at?_child {below : Directory} (h : d.at? path = some (.directory below)) (name : String) :
    d.at? (path ++ [name]) = below.get? name := by
  rw [at?_append, h, Option.bind_some, at?_directory, at?]

/-- Above an entry stands a directory. -/
theorem at?_parent {name : String} (h : d.at? (path ++ [name]) = some e) : ∃ below, d.at? path = some (.directory below) := by
  rw [at?_append] at h
  obtain ⟨outer, houter, hname⟩ := Option.bind_eq_some_iff.mp h
  cases outer with
  | directory below => exact ⟨below, houter⟩
  | file content => cases hname
  | link target => cases hname

/-- A path to a directory begins in a directory. -/
theorem get?_of_at?_directory {below : Directory} (h : d.at? (name :: path) = some (.directory below)) :
    ∃ inner : Directory, d.get? name = some (.directory inner) ∧ inner.at? path = some (.directory below) := by
  rw [at?_step] at h
  obtain ⟨outer, houter, hpath⟩ := Option.bind_eq_some_iff.mp h
  cases outer with
  | directory inner => exact ⟨inner, houter, at?_directory inner path ▸ hpath⟩
  | file content => cases path <;> cases hpath
  | link target => cases path <;> cases hpath

/-- The same entry, or directories on both sides. -/
def Alike (a b : Option Entry) : Prop := a = b ∨ ∃ x y, a = some (.directory x) ∧ b = some (.directory y)

/-- An entry that nothing stands below. -/
def IsTip (e : Entry) : Prop := ∀ name rest, e.at? (name :: rest) = none

/-- An entry that nothing stands below may take the place of none, or of one that is no directory: all other places stay
as they are. -/
theorem alike_put (hold : ∀ below, d.get? name ≠ some (.directory below)) (htip : IsTip e) {place : List String}
    (hplace : place ≠ [name]) : Alike (d.at? place) ((d.put name e).at? place) := by
  cases place with
  | nil => exact .inr ⟨d, _, rfl, rfl⟩
  | cons first rest =>
    rw [at?_step, at?_step]
    by_cases hfirst : first = name
    · subst hfirst
      cases rest with
      | nil => exact absurd rfl hplace
      | cons next rest =>
        -- Below the place there was nothing, and there is nothing now.
        rw [get?_put_self, Option.bind_some, htip]
        refine .inl ?_
        cases hget : d.get? first with
        | none => rfl
        | some old =>
          cases old with
          | directory below => exact absurd hget (hold below)
          | file content => rfl
          | link target => rfl
    · rw [get?_put_of_ne hfirst]
      exact .inl rfl

/-- The same at any place: the directories above it stay, apart from what they hold. -/
theorem at?_putAt (hparent : ∃ below, d.at? path = some (.directory below))
    (hold : ∀ below, d.at? (path ++ [name]) ≠ some (.directory below)) (htip : IsTip e) :
    (d.putAt e (path ++ [name])).at? (path ++ [name]) = some e ∧
      ∀ place, place ≠ path ++ [name] → Alike (d.at? place) ((d.putAt e (path ++ [name])).at? place) := by
  induction path generalizing d with
  | nil =>
    have hput : d.putAt e [name] = d.put name e := rfl
    rw [List.nil_append, hput]
    exact ⟨by rw [at?, get?_put_self], fun place hplace => alike_put hold htip hplace⟩
  | cons first path ih =>
    obtain ⟨below, hbelow⟩ := hparent
    obtain ⟨inner, hinner, hpath⟩ := get?_of_at?_directory hbelow
    have hput : d.putAt e (first :: (path ++ [name])) = d.put first (.directory (putAt inner e (path ++ [name]))) := by
      rw [putAt, hinner]
      simp
    have hdescend : ∀ rest, d.at? (first :: rest) = at? inner rest := by
      intro rest
      rw [at?_step, hinner, Option.bind_some, at?_directory]
    have hdescend' : ∀ rest, (d.put first (.directory (putAt inner e (path ++ [name])))).at? (first :: rest) =
        at? (putAt inner e (path ++ [name])) rest := by
      intro rest
      rw [at?_step, get?_put_self, Option.bind_some, at?_directory]
    obtain ⟨hself, hothers⟩ := ih ⟨below, hpath⟩ fun x hx => hold x ((hdescend _).trans hx)
    rw [List.cons_append, hput]
    refine ⟨(hdescend' _).trans hself, fun place hplace => ?_⟩
    cases place with
    | nil => exact .inr ⟨d, _, rfl, rfl⟩
    | cons other rest =>
      by_cases hother : other = first
      · subst hother
        rw [hdescend, hdescend']
        exact hothers rest fun hrest => hplace (hrest ▸ rfl)
      · rw [at?_step, at?_step, get?_put_of_ne hother]
        exact .inl rfl

end Directory

/-- What may become of the entry at a place in a tree that grows. -/
inductive Entry.Kept : Option Entry → Option Entry → Prop
  | absent (e : Option Entry) : Kept none e
  | file (before after : List UInt8) : Kept (some (.file before)) (some (.file after))
  | link (target : String) : Kept (some (.link target)) (some (.link target))
  | directory (before after : Directory) : Kept (some (.directory before)) (some (.directory after))

namespace Entry.Kept

theorem refl (e : Option Entry) : Kept e e := by
  rcases e with _ | e
  · exact .absent _
  · cases e with
    | file content => exact .file _ _
    | link target => exact .link _
    | directory d => exact .directory _ _

theorem trans {a b c : Option Entry} (hab : Kept a b) (hbc : Kept b c) : Kept a c := by
  cases hab with
  | absent => exact .absent _
  | file before after =>
    cases hbc with
    | file _ last => exact .file _ _
  | link target =>
    cases hbc with
    | link => exact .link _
  | directory before after =>
    cases hbc with
    | directory _ last => exact .directory _ _

theorem of_directory {a b : Option Entry} (h : Kept a b) {d : Directory} (ha : a = some (.directory d)) :
    ∃ d', b = some (.directory d') := by
  cases h with
  | directory _ after => exact ⟨after, rfl⟩
  | _ => cases ha

theorem of_link {a b : Option Entry} (h : Kept a b) {target : String} (ha : a = some (.link target)) :
    b = some (.link target) := by
  cases h with
  | link => exact ha
  | _ => cases ha

theorem of_other {a b : Option Entry} (h : Kept a b) {e : Entry} (ha : a = some e) (hlink : ∀ target, e ≠ .link target) :
    ∃ e', b = some e' ∧ ∀ target, e' ≠ .link target := by
  cases h with
  | absent => cases ha
  | file _ after => exact ⟨_, rfl, by simp⟩
  | link target => exact absurd (Option.some.inj ha).symm (hlink target)
  | directory _ after => exact ⟨_, rfl, by simp⟩

theorem of_alike {a b : Option Entry} (h : Directory.Alike a b) : Kept a b := by
  rcases h with rfl | ⟨x, y, rfl, rfl⟩
  · exact .refl _
  · exact .directory _ _

end Entry.Kept

namespace Files

/-- The tree of the second has grown from that of the first. -/
structure Extends (before after : Files) : Prop where
  here : after.here = before.here
  room : after.room = before.room
  kept : ∀ place, Entry.Kept (before.top.at? place) (after.top.at? place)

namespace Extends
variable {f g h : Files}

theorem refl (f : Files) : f.Extends f := ⟨rfl, rfl, fun _ => .refl _⟩

theorem trans (hfg : f.Extends g) (hgh : g.Extends h) : f.Extends h :=
  ⟨hgh.here.trans hfg.here, hgh.room.trans hfg.room, fun place => (hfg.kept place).trans (hgh.kept place)⟩

end Extends

section Following
variable {top after : Directory} {jump jump' : List String → List String → Except FileError Place}

/-- What the first step of a path may come to: a step up, a name that is free, a link, or a step down. -/
inductive Descent (top : Directory) (jump : List String → List String → Except FileError Place) (done : List String)
    (step : String) (rest : List String) (r : Place) : Prop
  | up (dots : step = "..") (later : descend top jump done.dropLast rest = .ok r)
  | free (dots : step ≠ "..") (entry : top.at? (done ++ [step]) = none) (short : step.utf8ByteSize ≤ nameLimit)
      (last : rest = []) (result : r = (done ++ [step], none))
  | through {target : String} (dots : step ≠ "..") (entry : top.at? (done ++ [step]) = some (.link target))
      (later : jump (if Path.isAbsolute target then [] else done) (Path.steps target ++ rest) = .ok r)
  | down {e : Entry} (dots : step ≠ "..") (entry : top.at? (done ++ [step]) = some e)
      (other : ∀ target, e ≠ .link target) (later : descend top jump (done ++ [step]) rest = .ok r)

theorem descent_of_descend {d : Directory} {done : List String} {step : String} {rest : List String} {r : Place}
    (hat : top.at? done = some (.directory d)) (h : descend top jump done (step :: rest) = .ok r) :
    Descent top jump done step rest r := by
  have hchild := Directory.at?_child hat step
  rw [descend, hat] at h
  dsimp only at h
  by_cases hdots : step = ".."
  · rw [if_pos (beq_iff_eq.mpr hdots)] at h
    exact .up hdots h
  · rw [if_neg fun hstep => hdots (beq_iff_eq.mp hstep)] at h
    cases hget : Directory.get? step d with
    | none =>
      rw [hget] at h hchild
      dsimp only at h
      split at h
      · cases h
      · rename_i hshort
        split at h
        · rename_i hrest
          exact .free hdots hchild (Nat.not_lt.mp hshort) (List.isEmpty_iff.mp hrest) (Except.ok.inj h).symm
        · cases h
    | some entry =>
      rw [hget] at h hchild
      cases entry with
      | link target => exact .through hdots hchild h
      | _ => exact .down hdots hchild (by simp) h

theorem descend_of_descent {d : Directory} {done : List String} {step : String} {rest : List String} {r : Place}
    (hat : top.at? done = some (.directory d)) (h : Descent top jump done step rest r) :
    descend top jump done (step :: rest) = .ok r := by
  have hchild := Directory.at?_child hat step
  rw [descend, hat]
  dsimp only
  cases h with
  | up dots later =>
    rw [if_pos (beq_iff_eq.mpr dots)]
    exact later
  | free dots entry short last result =>
    rw [if_neg fun hstep => dots (beq_iff_eq.mp hstep), hchild.symm.trans entry]
    dsimp only
    rw [if_neg (Nat.not_lt.mpr short), if_pos (List.isEmpty_iff.mpr last), result]
  | through dots entry later =>
    rw [if_neg fun hstep => dots (beq_iff_eq.mp hstep), hchild.symm.trans entry]
    exact later
  | @down e dots entry other later =>
    rw [if_neg fun hstep => dots (beq_iff_eq.mp hstep), hchild.symm.trans entry]
    cases e with
    | link target => exact absurd rfl (other target)
    | _ => exact later

theorem descend_cons_iff {done : List String} {step : String} {rest : List String} {r : Place} :
    descend top jump done (step :: rest) = .ok r ↔
      (∃ d, top.at? done = some (.directory d)) ∧ Descent top jump done step rest r := by
  refine ⟨fun h => ?_, fun ⟨⟨d, hat⟩, h⟩ => descend_of_descent hat h⟩
  cases hat : top.at? done with
  | none =>
    rw [descend, hat] at h
    cases h
  | some outer =>
    cases outer with
    | directory d => exact ⟨⟨d, rfl⟩, descent_of_descend hat h⟩
    | _ =>
      rw [descend, hat] at h
      cases h

/-- Where the first path ends at no directory, and a file stands there in the tree that has grown, the second path ends at
that file. -/
def Remains (after : Directory) (r r' : Except FileError Place) : Prop :=
  ∀ place e content, r = .ok (place, e) → (∀ d, e ≠ some (.directory d)) → after.at? place = some (.file content) →
    r' = .ok (place, some (.file content))

theorem remains_descend (hkept : ∀ place, Entry.Kept (top.at? place) (after.at? place))
    (hjump : ∀ done steps, Remains after (jump done steps) (jump' done steps)) (done steps : List String) :
    Remains after (descend top jump done steps) (descend after jump' done steps) := by
  intro place e content h hdirectory hfile
  induction steps generalizing done with
  | nil =>
    rw [descend] at h
    split at h
    · cases h
      rw [descend, hfile]
    · cases h
  | cons step rest ih =>
    obtain ⟨⟨d, houter⟩, hstep⟩ := descend_cons_iff.mp h
    refine descend_cons_iff.mpr ⟨(hkept done).of_directory houter, ?_⟩
    cases hstep with
    | up dots later => exact .up dots (ih _ later)
    | free dots entry short last result =>
      cases result
      subst last
      exact .down dots hfile (by simp) (by rw [descend, hfile])
    | through dots entry later => exact .through dots ((hkept _).of_link entry) (hjump _ _ _ _ _ later hdirectory hfile)
    | down dots entry other later =>
      obtain ⟨e', hentry, hother⟩ := (hkept _).of_other entry other
      exact .down dots hentry hother (ih _ later)

theorem remains_follow (hkept : ∀ place, Entry.Kept (top.at? place) (after.at? place)) (links : Nat)
    (done steps : List String) : Remains after (follow top links done steps) (follow after links done steps) := by
  induction links generalizing done steps with
  | zero =>
    refine remains_descend hkept (fun _ _ => ?_) done steps
    intro _ _ _ h
    cases h
  | succ links ih => exact remains_descend hkept ih done steps

/-- Where a path may end: at an entry that is no link, or at a free name in a directory. -/
inductive Settled (top : Directory) : Place → Prop
  | found {place : List String} {e : Entry} (entry : top.at? place = some e) (other : ∀ target, e ≠ .link target) :
      Settled top (place, some e)
  | free {outer : List String} {d : Directory} {name : String} (directory : top.at? outer = some (.directory d))
      (entry : top.at? (outer ++ [name]) = none) : Settled top (outer ++ [name], none)

/-- The way goes on from something that is there and is no link. -/
def Steady (top : Directory) (done : List String) : Prop := ∃ e, top.at? done = some e ∧ ∀ target, e ≠ .link target

theorem steady_of_directory {done : List String} {d : Directory} (h : top.at? done = some (.directory d)) :
    Steady top done := ⟨_, h, by simp⟩

theorem steady_dropLast {done : List String} {d : Directory} (h : top.at? done = some (.directory d)) :
    Steady top done.dropLast := by
  rcases List.eq_nil_or_concat done with rfl | ⟨outer, name, rfl⟩
  · exact steady_of_directory h
  · rw [List.concat_eq_append] at h ⊢
    obtain ⟨below, hbelow⟩ := Directory.at?_parent h
    rw [List.dropLast_concat]
    exact steady_of_directory hbelow

theorem settled_descend (hjump : ∀ done steps r, Steady top done → jump done steps = .ok r → Settled top r)
    (done steps : List String) (r : Place) (hdone : Steady top done) (h : descend top jump done steps = .ok r) :
    Settled top r := by
  induction steps generalizing done with
  | nil =>
    obtain ⟨e, he, hlink⟩ := hdone
    rw [descend, he] at h
    cases h
    exact .found he hlink
  | cons step rest ih =>
    obtain ⟨⟨d, houter⟩, hstep⟩ := descend_cons_iff.mp h
    cases hstep with
    | up dots later => exact ih _ (steady_dropLast houter) later
    | free dots entry short last result =>
      cases result
      exact .free houter entry
    | through dots entry later =>
      refine hjump _ _ _ ?_ later
      split
      · exact steady_of_directory rfl
      · exact steady_of_directory houter
    | down dots entry other later => exact ih _ ⟨_, entry, other⟩ later

theorem settled_follow (links : Nat) (done steps : List String) (r : Place) (hdone : Steady top done)
    (h : follow top links done steps = .ok r) : Settled top r := by
  induction links generalizing done steps r with
  | zero =>
    refine settled_descend (fun _ _ _ _ h => ?_) done steps r hdone h
    cases h
  | succ links ih => exact settled_descend ih done steps r hdone h

end Following

/-- The working directory is a directory. -/
def Rooted (f : Files) : Prop := ∃ d, f.top.at? f.here = some (.directory d)

variable {f g : Files} {path : String} {place : List String} {content : List UInt8}

theorem Extends.rooted (hfg : f.Extends g) (hf : f.Rooted) : g.Rooted := by
  obtain ⟨d, hd⟩ := hf
  rw [Rooted, hfg.here]
  exact (hfg.kept _).of_directory hd

theorem Rooted.steady (hf : f.Rooted) (path : String) : Steady f.top (f.start path) := by
  obtain ⟨d, hd⟩ := hf
  unfold start
  split
  · exact steady_of_directory rfl
  · exact steady_of_directory hd

theorem Extends.locate (hfg : f.Extends g) {e : Option Entry} (hlocate : f.locate path = .ok (place, e))
    (hdirectory : ∀ d, e ≠ some (.directory d)) (hfile : g.top.at? place = some (.file content)) :
    g.locate path = .ok (place, some (.file content)) := by
  have hstart : g.start path = f.start path := by
    rw [start, start, hfg.here]
  obtain ⟨hrefusal, hfollow⟩ := locate_eq_ok_iff.mp hlocate
  rw [locate_eq_ok_iff, hstart]
  exact ⟨hrefusal, remains_follow hfg.kept _ _ _ _ _ _ hfollow hdirectory hfile⟩

def leaf? (f : Files) (place : List String) : Option Entry :=
  (f.top.at? place).bind fun
    | .directory _ => none
    | e => some e

theorem leaf?_of_alike (h : Directory.Alike (f.top.at? place) (g.top.at? place)) : g.leaf? place = f.leaf? place := by
  unfold leaf?
  rcases h with h | ⟨x, y, hx, hy⟩
  · rw [h]
  · rw [hx, hy]
    rfl

/-- A path leads to a file at a place. -/
def Leads (f : Files) (path : String) (place : List String) : Prop :=
  ∃ content, f.locate path = .ok (place, some (.file content))

theorem Extends.leads (hfg : f.Extends g) (hleads : f.Leads path place) : g.Leads path place := by
  obtain ⟨content, hlocate⟩ := hleads
  have hkept := hfg.kept place
  rw [faithful_locate _ _ _ _ hlocate] at hkept
  cases hfile : g.top.at? place with
  | none =>
    rw [hfile] at hkept
    cases hkept
  | some e =>
    rw [hfile] at hkept
    cases hkept with
    | file _ after => exact ⟨after, hfg.locate hlocate (by simp) hfile⟩

theorem leads_of_read (h : f.read path = .ok content) :
    ∃ place, f.locate path = .ok (place, some (.file content)) := by
  unfold read at h
  split at h
  · rename_i place content' hlocate
    cases h
    exact ⟨place, hlocate⟩
  · cases h
  · cases h
  · cases h

theorem read_of_locate (h : f.locate path = .ok (place, some (.file content))) : f.read path = .ok content := by
  unfold read
  rw [h]

/-- The second tree comes from the first by writing files, in order: only the places to which their paths lead are
changed, and every path reads what was written to it last. -/
structure Wrote (before : Files) (written : List (String × List UInt8)) (after : Files) : Prop where
  grown : before.Extends after
  kept : ∀ place, (∀ w ∈ written, ¬after.Leads w.1 place) → after.leaf? place = before.leaf? place
  held : ∀ earlier w later, written = earlier ++ w :: later →
    after.read w.1 = .ok w.2 ∨ ∃ v ∈ later, ∃ place, after.Leads w.1 place ∧ after.Leads v.1 place

namespace Wrote
variable {a b c : Files} {ws vs : List (String × List UInt8)}

theorem refl (a : Files) : Wrote a [] a :=
  ⟨.refl a, fun _ _ => rfl, fun earlier w later h => by simp at h⟩

theorem trans (hab : Wrote a ws b) (hbc : Wrote b vs c) : Wrote a (ws ++ vs) c where
  grown := hab.grown.trans hbc.grown
  kept := by
    intro place hplace
    have hws : ∀ w ∈ ws, ¬b.Leads w.1 place := fun w hw hleads =>
      hplace w (List.mem_append_left _ hw) (hbc.grown.leads hleads)
    rw [hbc.kept place fun v hv => hplace v (List.mem_append_right _ hv), hab.kept place hws]
  held := by
    intro earlier w later h
    rcases List.append_eq_append_iff.mp h with ⟨middle, rfl, hvs⟩ | ⟨middle, hws, hlater⟩
    · exact hbc.held middle w later hvs
    · cases middle with
      | nil =>
        rw [List.nil_append] at hlater
        exact hbc.held [] w later hlater.symm
      | cons w' middle =>
        obtain ⟨rfl, rfl⟩ := List.cons.inj hlater
        rcases hab.held earlier w middle hws with hread | ⟨v, hv, place, hw, hv'⟩
        · obtain ⟨place, hlocate⟩ := leads_of_read hread
          obtain ⟨content, hlocate'⟩ := hbc.grown.leads ⟨_, hlocate⟩
          by_cases hlater : ∃ v ∈ vs, c.Leads v.1 place
          · obtain ⟨v, hv, hleads⟩ := hlater
            exact .inr ⟨v, List.mem_append_right _ hv, place, ⟨_, hlocate'⟩, hleads⟩
          · -- Nothing else was written to the place, so that it still holds what was written first.
            have hkept := hbc.kept place fun v hv hleads => hlater ⟨v, hv, hleads⟩
            unfold leaf? at hkept
            rw [faithful_locate _ _ _ _ hlocate, faithful_locate _ _ _ _ hlocate'] at hkept
            cases hkept
            exact .inl (read_of_locate hlocate')
        · exact .inr ⟨v, List.mem_append_left _ hv, place, hbc.grown.leads hw, hbc.grown.leads hv'⟩

/-- The file that was written first is there, unless it was written once more. -/
theorem read_first {path : String} {content : List UInt8} (h : Wrote a ((path, content) :: ws) b) :
    b.read path = .ok content ∨ ∃ v ∈ ws, ∃ place, b.Leads path place ∧ b.Leads v.1 place :=
  h.held [] (path, content) ws rfl

/-- The file that was written last is there. -/
theorem read_last {path : String} {content : List UInt8} (h : Wrote a (ws ++ [(path, content)]) b) :
    b.read path = .ok content := by
  rcases h.held ws (path, content) [] rfl with hread | ⟨v, hv, -⟩
  · exact hread
  · cases hv

end Wrote

section Operations
variable {outer : List String} {name : String} {e : Entry}

theorem extends_putAt (houter : ∃ d, f.top.at? outer = some (.directory d))
    (hold : ∀ d, f.top.at? (outer ++ [name]) ≠ some (.directory d)) (htip : Directory.IsTip e)
    (hkept : Entry.Kept (f.top.at? (outer ++ [name])) (some e)) :
    f.Extends { f with top := f.top.putAt e (outer ++ [name]) } := by
  obtain ⟨hself, hothers⟩ := Directory.at?_putAt houter hold htip
  refine ⟨rfl, rfl, fun place => ?_⟩
  by_cases hplace : place = outer ++ [name]
  · rw [hplace, hself]
    exact hkept
  · exact .of_alike (hothers place hplace)

theorem isTip_file (content : List UInt8) : Directory.IsTip (.file content) := fun _ _ => rfl

theorem isTip_empty : Directory.IsTip (.directory []) := by
  intro name rest
  rw [Directory.at?_directory, Directory.at?_step]
  rfl

theorem create_cases (h : f.create path e = .ok g) :
    ∃ outer d name, f.top.at? outer = some (.directory d) ∧ f.top.at? (outer ++ [name]) = none ∧
      g = { f with top := f.top.putAt e (outer ++ [name]) } := by
  unfold create at h
  dsimp only at h
  split at h
  · cases h
  · split at h
    · rename_i outer d name hfollow hlast
      have hat := faithful_follow _ _ _ _ _ _ hfollow
      split at h
      · cases h
      · rename_i hfree
        split at h
        · cases h
        · cases h
          refine ⟨outer, d, name, hat, ?_, rfl⟩
          rw [Directory.at?_child hat]
          cases hget : Directory.get? name d with
          | none => rfl
          | some old => exact absurd (by simp [hget]) hfree
    all_goals cases h

theorem wrote_create (h : f.create path (.directory []) = .ok g) : Wrote f [] g := by
  obtain ⟨outer, d, name, houter, hfree, rfl⟩ := create_cases h
  have hold : ∀ d, f.top.at? (outer ++ [name]) ≠ some (.directory d) := by simp [hfree]
  refine ⟨extends_putAt ⟨d, houter⟩ hold isTip_empty (hfree ▸ .absent _), fun place _ => ?_, fun _ _ _ h => by simp at h⟩
  obtain ⟨hself, hothers⟩ := Directory.at?_putAt ⟨d, houter⟩ hold isTip_empty
  by_cases hplace : place = outer ++ [name]
  · unfold leaf?
    rw [hplace, hself, hfree]
    rfl
  · exact leaf?_of_alike (hothers place hplace)

theorem wrote_createDirectory (h : f.createDirectory path = .ok g) : Wrote f [] g := by
  unfold createDirectory at h
  split at h
  · rename_i hcreate
    cases h
    exact wrote_create hcreate
  · split at h
    · cases h
      exact .refl f
    · cases h

theorem wrote_attempt (f : Files) (path : String) : Wrote f [] (Effect.ofAttempt f (f.createDirectory path)).files := by
  cases h : f.createDirectory path with
  | error e => exact .refl f
  | ok g => exact wrote_createDirectory h

/-- Directories are made from the top down, and those that were made remain, whatever comes of the others. -/
theorem wrote_makeDirectoryWith (fuel : Nat) (f : Files) (path : String) :
    Wrote f [] (makeDirectoryWith fuel f path).files := by
  induction fuel generalizing f path with
  | zero => exact wrote_attempt f path
  | succ fuel ih =>
    rw [makeDirectoryWith]
    split
    · rename_i hcreate
      exact wrote_createDirectory hcreate
    · split
      · unfold Effect.andThen
        split
        · exact ih f _
        · exact (ih f _).trans (wrote_attempt _ path)
      · exact .refl f

theorem wrote_makeDirectory (f : Files) (path : String) : Wrote f [] (f.makeDirectory path).files :=
  wrote_makeDirectoryWith _ f path

theorem fitting_starts (f : Files) (place : List String) (content : List UInt8) :
    f.fitting place content <+: content := by
  unfold fitting
  split
  · exact List.take_prefix _ _
  · exact List.prefix_rfl

theorem fitting_of_room (h : f.room = []) (place : List String) (content : List UInt8) :
    f.fitting place content = content := by
  rw [fitting, h, List.find?_nil]

/-- What a path may be written to: a file, or a free name in a directory. Where it may not, nothing is done. -/
theorem write_cases (hf : f.Rooted) (path : String) (content : List UInt8) :
    (∃ e, f.write path content = { files := f, failure := some e }) ∨
    ∃ outer name entry, f.locate path = .ok (outer ++ [name], entry) ∧ (∃ d, f.top.at? outer = some (.directory d)) ∧
      f.top.at? (outer ++ [name]) = entry ∧ (entry = none ∨ ∃ old, entry = some (.file old)) ∧
      f.write path content =
        { files := { f with top := f.top.putAt (.file (f.fitting (outer ++ [name]) content)) (outer ++ [name]) },
          failure :=
            if (f.fitting (outer ++ [name]) content).length < content.length then some ⟨.noSpace, none⟩ else none } := by
  unfold write
  split
  · exact .inl ⟨_, rfl⟩
  · rename_i place entry hother hlocate
    refine .inr ?_
    cases settled_follow _ _ _ _ (hf.steady path) (locate_eq_ok_iff.mp hlocate).2 with
    | @found place e hentry hlink =>
      cases e with
      | directory d => exact absurd rfl (hother d)
      | link target => exact absurd rfl (hlink target)
      | file old =>
        rcases List.eq_nil_or_concat place with rfl | ⟨outer, name, rfl⟩
        · cases hentry
        · rw [List.concat_eq_append] at hentry hlocate ⊢
          exact ⟨outer, name, _, hlocate, Directory.at?_parent hentry, hentry, .inr ⟨old, rfl⟩, rfl⟩
    | free houter hfree => exact ⟨_, _, none, hlocate, ⟨_, houter⟩, hfree, .inl rfl, rfl⟩
  · exact .inl ⟨_, rfl⟩

/-- A file that is put where a path leads is what the path reads afterwards. -/
theorem wrote_putAt {entry : Option Entry} (hlocate : f.locate path = .ok (outer ++ [name], entry))
    (houter : ∃ d, f.top.at? outer = some (.directory d)) (hentry : f.top.at? (outer ++ [name]) = entry)
    (hold : entry = none ∨ ∃ old, entry = some (.file old)) (content : List UInt8) :
    Wrote f [(path, content)] { f with top := f.top.putAt (.file content) (outer ++ [name]) } := by
  have hdirectory : ∀ d, entry ≠ some (.directory d) := by
    rintro d rfl
    rcases hold with hold | ⟨old, hold⟩ <;> cases hold
  have hkept : Entry.Kept entry (some (.file content)) := by
    rcases hold with rfl | ⟨old, rfl⟩
    · exact .absent _
    · exact .file _ _
  have hgrown := extends_putAt houter (hentry ▸ hdirectory) (isTip_file content) (hentry ▸ hkept)
  obtain ⟨hself, hothers⟩ := Directory.at?_putAt houter (hentry ▸ hdirectory) (isTip_file content)
  have hlocate' := hgrown.locate hlocate hdirectory hself
  refine ⟨hgrown, fun place hplace => ?_, fun earlier w later hw => .inl ?_⟩
  · by_cases heq : place = outer ++ [name]
    · exact absurd ⟨content, heq ▸ hlocate'⟩ (hplace _ List.mem_cons_self)
    · exact leaf?_of_alike (hothers place heq)
  · have hwritten : w ∈ [(path, content)] := hw ▸ List.mem_append_right _ List.mem_cons_self
    rw [List.mem_singleton.mp hwritten]
    exact read_of_locate hlocate'

end Operations

/-- What may have been written of files that are due, in their order: some of them whole, and of the next one at most a
first part, which may be empty. -/
inductive Begun : List (String × List UInt8) → List (String × List UInt8) → Prop
  | whole (written later : List (String × List UInt8)) : Begun written (written ++ later)
  | cut (written later : List (String × List UInt8)) (path : String) (part : List UInt8) {rest : List UInt8}
      (short : rest ≠ []) : Begun (written ++ [(path, part)]) (written ++ (path, part ++ rest) :: later)

namespace Begun
variable {ws due : List (String × List UInt8)}

theorem none (due : List (String × List UInt8)) : Begun [] due := .whole [] due

theorem all (due : List (String × List UInt8)) : Begun due due := by
  simpa using Begun.whole due []

theorem append (h : Begun ws due) (more : List (String × List UInt8)) : Begun ws (due ++ more) := by
  cases h with
  | whole _ later =>
    rw [List.append_assoc]
    exact .whole _ _
  | cut written later path part short =>
    rw [List.append_assoc, List.cons_append]
    exact .cut _ _ _ _ short

theorem prepend (h : Begun ws due) (done : List (String × List UInt8)) : Begun (done ++ ws) (done ++ due) := by
  cases h with
  | whole _ later =>
    rw [← List.append_assoc]
    exact .whole _ _
  | cut written later path part short =>
    rw [← List.append_assoc, ← List.append_assoc]
    exact .cut _ _ _ _ short

theorem of_start {part : List UInt8} (h : part <+: content) (path : String) : Begun [(path, part)] [(path, content)] := by
  obtain ⟨rest, rfl⟩ := h
  cases rest with
  | nil =>
    rw [List.append_nil]
    exact .all _
  | cons b rest => exact .cut [] [] path part (List.cons_ne_nil b rest)

end Begun

/-- The second tree has come from the first by writing the files that are due as far as it went: all of them if it came
to its end, and each of them whole where no room is short. -/
def Progressed (before : Files) (due : List (String × List UInt8)) (after : Files) (ended : Prop) : Prop :=
  ∃ written, Begun written due ∧ before.Wrote written after ∧ (ended → written = due) ∧
    (before.room = [] → written <+: due)

theorem progressed_write (hf : f.Rooted) (path : String) (content : List UInt8) :
    f.Progressed [(path, content)] (f.write path content).files ((f.write path content).failure = none) := by
  rcases write_cases hf path content with ⟨e, hwrite⟩ | ⟨outer, name, entry, hlocate, houter, hentry, hold, hwrite⟩
  · rw [hwrite]
    refine ⟨[], .none _, .refl f, fun hended => ?_, fun _ => List.nil_prefix⟩
    cases hended
  · rw [hwrite]
    have hpart := f.fitting_starts (outer ++ [name]) content
    refine ⟨_, .of_start hpart path, wrote_putAt hlocate houter hentry hold _, fun hended => ?_, fun hroom => ?_⟩
    · -- Nothing is missing, so that the part is the whole.
      have hlength : ¬(f.fitting (outer ++ [name]) content).length < content.length := by
        intro hshort
        rw [if_pos hshort] at hended
        cases hended
      rw [hpart.eq_of_length_le (Nat.not_lt.mp hlength)]
    · rw [fitting_of_room hroom]

theorem progressed_deliver (hf : f.Rooted) (path : String) (content : List UInt8) :
    f.Progressed [(path, content)] (f.deliver path content).files ((f.deliver path content).failure = none) := by
  have hmade := wrote_makeDirectory f (Path.parent path)
  unfold deliver Effect.andThen
  split
  · rename_i e hfailure
    refine ⟨[], .none _, hmade, fun hended => ?_, fun _ => List.nil_prefix⟩
    rw [hfailure] at hended
    cases hended
  · obtain ⟨written, hbegun, hwrote, hall, hwhole⟩ := progressed_write (hmade.grown.rooted hf) path content
    exact ⟨written, hbegun, hmade.trans hwrote, hall, fun hroom => hwhole (hmade.grown.room.trans hroom)⟩

end Files

end CorpusShape
