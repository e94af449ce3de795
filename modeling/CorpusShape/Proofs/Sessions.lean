import CorpusShape.CommandLine

/-!
# Steps of a run

What single steps of a run come to, and what a sequence of steps comes to: the first step that fails ends it, and what
was done before remains. Printing and telling leave the files alone.
-/
namespace CorpusShape.CommandLine
variable {α β : Type} {s t : Session} {x : Steps α} {f : α → Steps β}

@[simp] theorem run_get (s : Session) : (get : Steps Session).run.run s = (.ok s, s) := rfl

@[simp] theorem run_set (s t : Session) : (set t : Steps PUnit).run.run s = (.ok (), t) := rfl

@[simp] theorem run_modify (g : Session → Session) (s : Session) :
    (modify g : Steps PUnit).run.run s = (.ok (), g s) := rfl

theorem run_bind_of_ok {a : α} (h : x.run.run s = (.ok a, t)) : (x >>= f).run.run s = (f a).run.run t := by
  rw [ExceptT.run_bind, StateT.run_bind, h]
  rfl

theorem run_bind_of_error {e : String} (h : x.run.run s = (.error e, t)) :
    (x >>= f).run.run s = (.error e, t) := by
  rw [ExceptT.run_bind, StateT.run_bind, h]
  rfl

/-- Steps that succeed have succeeded one after the other. -/
theorem exists_of_run_bind_ok {b : β} {u : Session} (h : (x >>= f).run.run s = (.ok b, u)) :
    ∃ a t, x.run.run s = (.ok a, t) ∧ (f a).run.run t = (.ok b, u) := by
  rcases hrun : x.run.run s with ⟨_ | a, t⟩
  · rw [run_bind_of_error hrun] at h
    cases h
  · exact ⟨a, t, rfl, (run_bind_of_ok hrun).symm.trans h⟩

theorem run_print_of_ok {width : Nat} {markup text : String} (h : Console.printed width markup = .ok text)
    (s : Session) : (print width markup).run.run s = (.ok (), { s with output := s.output ++ text }) := by
  unfold print
  rw [h]
  rfl

theorem run_print_of_error {width : Nat} {markup : String} {e : Console.MarkupError}
    (h : Console.printed width markup = .error e) (s : Session) :
    (print width markup).run.run s = (.error e.message, s) := by
  unfold print
  rw [h]
  rfl

def Session.told (e : Event) (s : Session) : Session :=
  if e.isShown s.debug then { s with log := s.log ++ [.event e] } else s

theorem run_tell (e : Event) (s : Session) : (tell e).run.run s = (.ok (), s.told e) := rfl

@[simp] theorem Session.files_told (e : Event) (s : Session) : (s.told e).files = s.files := by
  unfold Session.told
  split <;> rfl

@[simp] theorem Session.output_told (e : Event) (s : Session) : (s.told e).output = s.output := by
  unfold Session.told
  split <;> rfl

/-- Telling events always succeeds, and changes only what was told. -/
theorem run_forM_tell (events : List Event) (s : Session) :
    ∃ t, (events.forM tell).run.run s = (.ok (), t) ∧ t.files = s.files ∧ t.output = s.output := by
  induction events generalizing s with
  | nil => exact ⟨s, rfl, rfl, rfl⟩
  | cons e rest ih =>
    obtain ⟨t, ht, hfiles, houtput⟩ := ih (s.told e)
    refine ⟨t, ?_, hfiles.trans (s.files_told e), houtput.trans (s.output_told e)⟩
    exact (run_bind_of_ok (run_tell e s)).trans ht

end CorpusShape.CommandLine
