import CorpusShape.Proofs.Sessions
import CorpusShape.Proofs.WrittenFiles

/-!
# The reports that a run leaves behind

The reports of a run are written one after the other, and there is no way back: a file is emptied when it is opened, and
a run that fails later leaves behind the reports that it has written and the first part of the one that it was writing.
Where there is room for every report, each of them is there as a whole or not at all. A run that fails before its first
report leaves every file as it was, and a run that succeeds has written all reports that were asked for.
-/
namespace CorpusShape.CommandLine
variable {α β : Type} {width : Nat} {s t : Session} {x : Steps α} {f : α → Steps β}
  {ws vs : List (String × List UInt8)}

/-- From a session, the steps write the files that are due as far as they go, and all of them if they succeed. Where none
is due, the files are left alone. -/
def Writes (s : Session) (x : Steps α) (due : List (String × List UInt8)) : Prop :=
  s.files.Rooted → s.files.Progressed due (x.run.run s).2.files (∃ a, (x.run.run s).1 = .ok a) ∧
    (due = [] → (x.run.run s).2.files = s.files)

namespace Writes

theorem of_files_eq (h : (x.run.run s).2.files = s.files) : Writes s x [] := by
  intro _
  rw [h]
  exact ⟨⟨[], .none _, .refl _, fun _ => rfl, fun _ => List.nil_prefix⟩, fun _ => rfl⟩

theorem of_error {e : String} (h : x.run.run s = (.error e, t)) (hfiles : t.files = s.files)
    (due : List (String × List UInt8)) : Writes s x due := by
  intro _
  rw [h, hfiles]
  refine ⟨⟨[], .none _, .refl _, fun ⟨a, ha⟩ => ?_, fun _ => List.nil_prefix⟩, fun _ => rfl⟩
  cases ha

/-- Steps that leave the files alone write what the steps after them write. -/
theorem after {a : α} (h : x.run.run s = (.ok a, t)) (hfiles : t.files = s.files) (hf : Writes t (f a) ws) :
    Writes s (x >>= f) ws := by
  unfold Writes at hf ⊢
  rw [run_bind_of_ok h, ← hfiles]
  exact hf

theorem bind (hx : Writes s x ws) (hf : ∀ a t, x.run.run s = (.ok a, t) → Writes t (f a) vs) :
    Writes s (x >>= f) (ws ++ vs) := by
  intro hrooted
  obtain ⟨⟨written, hbegun, hwrote, hall, hwhole⟩, hnone⟩ := hx hrooted
  rcases hrun : x.run.run s with ⟨_ | a, t⟩
  · -- The first steps have failed: the others are not taken.
    rename_i e
    rw [run_bind_of_error hrun]
    rw [hrun] at hwrote hnone
    refine ⟨⟨written, hbegun.append vs, hwrote, fun ⟨a, ha⟩ => ?_,
      fun hroom => (hwhole hroom).trans (List.prefix_append _ _)⟩, fun hdue => hnone (List.append_eq_nil_iff.mp hdue).1⟩
    cases ha
  · rw [run_bind_of_ok hrun]
    rw [hrun] at hwrote hall hnone
    obtain rfl := hall ⟨a, rfl⟩
    obtain ⟨⟨written', hbegun', hwrote', hall', hwhole'⟩, hnone'⟩ := hf a t hrun (hwrote.grown.rooted hrooted)
    refine ⟨⟨written ++ written', hbegun'.prepend written, hwrote.trans hwrote',
      fun hended => congrArg (written ++ ·) (hall' hended), fun hroom => ?_⟩, fun hdue => ?_⟩
    · exact (List.prefix_append_right_inj _).mpr (hwhole' (hwrote.grown.room.trans hroom))
    · obtain ⟨hws, hvs⟩ := List.append_eq_nil_iff.mp hdue
      exact (hnone' hvs).trans (hnone hws)

end Writes

theorem writes_tell (e : Event) (s : Session) : Writes s (tell e) [] := .of_files_eq (s.files_told e)

theorem writes_print (width : Nat) (markup : String) (s : Session) : Writes s (print width markup) [] := by
  refine .of_files_eq ?_
  cases h : Console.printed width markup with
  | ok text => rw [run_print_of_ok h]
  | error e => rw [run_print_of_error h]

theorem run_writeFile (path content : String) (s : Session) :
    (writeFile path content).run.run s =
      ((s.files.deliver path (Utf8.encode content)).failure.elim (.ok ()) fun e => .error e.message,
        { s with files := (s.files.deliver path (Utf8.encode content)).files }) := by
  unfold writeFile
  rw [run_bind_of_ok (run_get s)]
  generalize s.files.deliver path (Utf8.encode content) = effect
  dsimp only
  rw [run_bind_of_ok (run_set s _)]
  cases effect.failure <;> rfl

theorem writes_writeFile (path content : String) (s : Session) :
    Writes s (writeFile path content) [(path, Utf8.encode content)] := by
  intro hrooted
  have hprogress := Files.progressed_deliver hrooted path (Utf8.encode content)
  rw [run_writeFile]
  generalize s.files.deliver path (Utf8.encode content) = effect at hprogress ⊢
  obtain ⟨written, hbegun, hwrote, hall, hwhole⟩ := hprogress
  refine ⟨⟨written, hbegun, hwrote, fun ⟨_, hended⟩ => hall ?_, hwhole⟩, fun hdue => ?_⟩
  · cases hfailure : effect.failure with
    | none => rfl
    | some e =>
      rw [hfailure] at hended
      cases hended
  · cases hdue

theorem writes_writeReport (width : Nat) (root destination kind event content : String) (s : Session) :
    Writes s (writeReport width root destination kind event content)
      [(Path.under root destination, Utf8.encode content)] := by
  refine (writes_writeFile _ _ s).bind fun _ t _ => ?_
  exact (writes_print width _ t).bind fun _ u _ => writes_tell _ u

def jsonReport (s : Settings) (a : Analysis) : List (String × List UInt8) :=
  match s.report.json.filter (!·.isEmpty), Report.json? a with
  | some destination, some content => [(Path.under s.root destination, Utf8.encode content)]
  | _, _ => []

def markdownReport (s : Settings) (a : Analysis) : List (String × List UInt8) :=
  match s.report.markdown.filter (!·.isEmpty) with
  | some destination => [(Path.under s.root destination, Utf8.encode (Report.markdownIn a s.report.style))]
  | none => []

section
variable {settings : Settings} {a : Analysis} {destination : String}

theorem jsonReport_of_some {content : String} (h : settings.report.json.filter (!·.isEmpty) = some destination)
    (hcontent : Report.json? a = some content) :
    jsonReport settings a = [(Path.under settings.root destination, Utf8.encode content)] := by
  unfold jsonReport
  rw [h, hcontent]

theorem markdownReport_of_some (h : settings.report.markdown.filter (!·.isEmpty) = some destination) :
    markdownReport settings a =
      [(Path.under settings.root destination, Utf8.encode (Report.markdownIn a settings.report.style))] := by
  unfold markdownReport
  rw [h]

theorem markdownReport_of_none (h : settings.report.markdown.filter (!·.isEmpty) = none) :
    markdownReport settings a = [] := by
  unfold markdownReport
  rw [h]

end

def reports (o : AnalyzeOptions) (s : Settings) (a : Analysis) : List (String × List UInt8) :=
  if a.results.isEmpty || o.noReport then [] else jsonReport s a ++ markdownReport s a

theorem writes_writeJson (width : Nat) (s : Settings) (a : Analysis) (t : Session) :
    Writes t (writeJson width s a) (jsonReport s a) := by
  unfold writeJson jsonReport
  cases s.report.json.filter (!·.isEmpty) with
  | none => exact .of_files_eq rfl
  | some destination =>
    cases Report.json? a with
    | none => exact .of_files_eq rfl
    | some content => exact writes_writeReport width _ _ _ _ content t

theorem writes_writeMarkdown (width : Nat) (s : Settings) (a : Analysis) (t : Session) :
    Writes t (writeMarkdown width s a) (markdownReport s a) := by
  unfold writeMarkdown markdownReport
  cases s.report.markdown.filter (!·.isEmpty) with
  | none => exact .of_files_eq rfl
  | some destination => exact writes_writeReport width _ _ _ _ _ t

theorem writes_writeReports (width : Nat) (o : AnalyzeOptions) (s : Settings) (a : Analysis) (t : Session) :
    Writes t (writeReports width o s a) (reports o s a) := by
  unfold writeReports reports
  cases a.results.isEmpty || o.noReport with
  | true => exact .of_files_eq rfl
  | false => exact (writes_writeJson width s a t).bind fun _ u _ => writes_writeMarkdown width s a u

def isPrintable (width : Nat) (a : Analysis) : Bool :=
  (Report.consolePrints a).all fun markup => (Console.printed width markup).isOk

/-- Printing leaves the files alone, and succeeds if every print does. -/
theorem run_forM_print (width : Nat) (markups : List String) (s : Session) :
    ∃ r t, (markups.forM (print width)).run.run s = (r, t) ∧ t.files = s.files ∧
      (r = .ok () ↔ (markups.all fun markup => (Console.printed width markup).isOk) = true) := by
  induction markups generalizing s with
  | nil => exact ⟨.ok (), s, rfl, rfl, by simp⟩
  | cons markup rest ih =>
    cases h : Console.printed width markup with
    | error e =>
      refine ⟨.error e.message, s, ?_, rfl, by simp [h, Except.isOk, Except.toBool]⟩
      exact run_bind_of_error (run_print_of_error h s)
    | ok text =>
      obtain ⟨r, t, hrun, hfiles, hall⟩ := ih { s with output := s.output ++ text }
      refine ⟨r, t, ?_, hfiles, by simp [h, hall, Except.isOk, Except.toBool]⟩
      exact (run_bind_of_ok (run_print_of_ok h s)).trans hrun

/-- The reports that are due once an analysis has come to an end: none if it cannot be printed. -/
def reportsAfter (width : Nat) (o : AnalyzeOptions) (s : Settings) (a : Analysis) : List (String × List UInt8) :=
  if isPrintable width a then reports o s a else []

theorem writes_report (width : Nat) (o : AnalyzeOptions) (s : Settings) (a : Analysis) (t : Session) :
    Writes t (report width o s a) (reportsAfter width o s a) := by
  obtain ⟨r, u, hrun, hfiles, hprinted⟩ := run_forM_print width (Report.consolePrints a) t
  unfold report reportsAfter
  cases r with
  | error e => exact .of_error (run_bind_of_error hrun) hfiles _
  | ok =>
    have hprintable : isPrintable width a = true := hprinted.mp rfl
    rw [if_pos hprintable, ← List.append_nil (reports o s a)]
    exact .after hrun hfiles ((writes_writeReports width o s a u).bind fun _ _ _ => .of_files_eq rfl)

theorem writes_fail (width : Nat) (text : String) (s : Session) : Writes s (fail width text) [] :=
  (writes_tell _ s).bind fun _ t _ => (writes_print width _ t).bind fun _ _ _ => .of_files_eq rfl

def reportsOf (width : Nat) (files : Files) (env : Environment) (o : AnalyzeOptions) (debug : Bool) :
    List (String × List UInt8) :=
  match Settings.load files env (o.request debug) with
  | .error _ => []
  | .ok s =>
    match files.inspect (files.resolve s.root), Analysis.run files s with
    | .ok _, .ok a => reportsAfter width o s a
    | _, _ => []

theorem writes_analyze (width : Nat) (env : Environment) (o : AnalyzeOptions) (s : Session) :
    Writes s (analyze width env o) (reportsOf width s.files env o s.debug) := by
  unfold analyze reportsOf
  refine .after (run_get s) rfl ?_
  cases Settings.load s.files env (o.request s.debug) with
  | error e =>
    cases e with
    | config e => exact writes_fail width _ s
    | file e => exact writes_fail width _ s
    | _ => exact .of_files_eq rfl
  | ok settings =>
    refine .after (run_modify _ s) rfl ?_
    dsimp only
    cases s.files.inspect (s.files.resolve settings.root) with
    | error e => exact writes_fail width _ _
    | ok _ =>
      obtain ⟨t, ht, hfiles, -⟩ := run_forM_tell (Analysis.events s.files settings)
        { s with debug := s.debug || settings.debug }
      refine .after ht hfiles ?_
      cases Analysis.run s.files settings with
      | ok a => exact writes_report width o settings a t
      | error e =>
        cases e with
        | score e => exact .of_files_eq rfl
        | load e =>
          cases e with
          | unreadable failure => exact writes_fail width _ t
          | tooManyPatterns => exact .of_files_eq rfl

def Task.reports (width : Nat) (files : Files) (env : Environment) (debug : Bool) : Task → List (String × List UInt8)
  | .analyze o => reportsOf width files env o debug
  | .help _ | .version => []

theorem writes_perform (width : Nat) (env : Environment) (task : Task) (s : Session) :
    Writes s (perform width env task) (task.reports width s.files env s.debug) := by
  cases task with
  | help command => exact .of_files_eq rfl
  | version => exact (writes_print width _ s).bind fun _ _ _ => .of_files_eq rfl
  | analyze o => exact writes_analyze width env o s

theorem writes_unexpected (width : Nat) (text : String) (s : Session) : Writes s (unexpected width text) [] :=
  (writes_tell _ s).bind fun _ t _ => (writes_print width _ t).bind fun _ _ _ => .of_files_eq rfl

def reportsDue (width : Nat) (files : Files) (env : Environment) (arguments : List String) :
    List (String × List UInt8) :=
  match Invocation.ofArguments files arguments with
  | .ok invocation => invocation.task.reports width files env invocation.debug
  | .error _ => []

/-- A failure that is told and printed never ends in success. -/
theorem told_ne_zero (width : Nat) (e : Event) (markup : String) (s : Session) :
    ((do tell e; print width markup; return 1 : Steps Nat).run.run s).1 ≠ .ok 0 := by
  intro h
  rcases hrun : (do tell e; print width markup; return 1 : Steps Nat).run.run s with ⟨r, t⟩
  rw [hrun] at h
  obtain rfl : r = .ok 0 := h
  obtain ⟨_, u, -, hprint⟩ := exists_of_run_bind_ok hrun
  obtain ⟨_, v, -, hpure⟩ := exists_of_run_bind_ok hprint
  cases hpure

theorem fail_ne_zero (width : Nat) (text : String) (s : Session) : ((fail width text).run.run s).1 ≠ .ok 0 :=
  told_ne_zero width _ _ s

theorem unexpected_ne_zero (width : Nat) (text : String) (s : Session) :
    ((unexpected width text).run.run s).1 ≠ .ok 0 :=
  told_ne_zero width _ _ s

/-- A run that ends in success has performed its task. -/
theorem perform_of_status_zero {files : Files} {env : Environment} {arguments : List String}
    (h : (run width files env arguments).status = .ok 0) :
    ∃ invocation, Invocation.ofArguments files arguments = .ok invocation ∧
      (perform width env invocation.task).run.run { files, debug := invocation.debug } =
        (.ok 0, (run width files env arguments).session) := by
  unfold run at h ⊢
  cases hinvocation : Invocation.ofArguments files arguments with
  | error e =>
    rw [hinvocation] at h
    cases h
  | ok invocation =>
    refine ⟨invocation, rfl, ?_⟩
    rw [hinvocation] at h
    dsimp only at h ⊢
    rcases hrun : (perform width env invocation.task).run.run { files, debug := invocation.debug } with ⟨text | n, t⟩
    · have hstatus := unexpected_ne_zero width text t
      rw [hrun] at h
      dsimp only at h
      rcases hlast : (unexpected width text).run.run t with ⟨status, last⟩
      rw [hlast] at h hstatus
      exact absurd h hstatus
    · rw [hrun] at h
      cases h
      rfl

/-- What a run does to the files. -/
theorem writes_run (width : Nat) (env : Environment) (arguments : List String) {files : Files} (hrooted : files.Rooted) :
    files.Progressed (reportsDue width files env arguments) (run width files env arguments).session.files
      ((run width files env arguments).status = .ok 0) ∧
    (reportsDue width files env arguments = [] → (run width files env arguments).session.files = files) := by
  unfold reportsDue run
  cases Invocation.ofArguments files arguments with
  | error e => exact ⟨⟨[], .none _, .refl _, fun _ => rfl, fun _ => List.nil_prefix⟩, fun _ => rfl⟩
  | ok invocation =>
    obtain ⟨⟨written, hbegun, hwrote, hall, hwhole⟩, hnone⟩ :=
      writes_perform width env invocation.task { files, debug := invocation.debug } hrooted
    dsimp only
    rcases hrun : (perform width env invocation.task).run.run { files, debug := invocation.debug } with ⟨text | n, t⟩
    · rw [hrun] at hwrote hnone
      have hfiles := (writes_unexpected width text t (hwrote.grown.rooted hrooted)).2 rfl
      have hstatus := unexpected_ne_zero width text t
      dsimp only
      rcases hlast : (unexpected width text).run.run t with ⟨status, last⟩
      rw [hlast] at hfiles hstatus
      dsimp only at hfiles ⊢
      rw [hfiles]
      exact ⟨⟨written, hbegun, hwrote, fun h => absurd h hstatus, hwhole⟩, hnone⟩
    · rw [hrun] at hwrote hnone hall
      exact ⟨⟨written, hbegun, hwrote, fun _ => hall ⟨n, rfl⟩, hwhole⟩, hnone⟩

/-- Every destination that the settings name holds its rendering of an analysis. Where both destinations lead to the
same file, it is the Markdown one, which is written last. -/
structure Delivered (s : Settings) (a : Analysis) (files : Files) : Prop where
  json : ∀ destination, s.report.json.filter (!·.isEmpty) = some destination →
    ∃ content, Report.json? a = some content ∧
      (files.read (Path.under s.root destination) = .ok (Utf8.encode content) ∨
        ∃ other place, s.report.markdown.filter (!·.isEmpty) = some other ∧
          files.Leads (Path.under s.root destination) place ∧ files.Leads (Path.under s.root other) place)
  markdown : ∀ destination, s.report.markdown.filter (!·.isEmpty) = some destination →
    files.read (Path.under s.root destination) = .ok (Utf8.encode (Report.markdownIn a s.report.style))

theorem delivered_of_wrote {s : Settings} {a : Analysis} {before after : Files}
    (hwrote : before.Wrote (jsonReport s a ++ markdownReport s a) after)
    (hjson : ∀ destination, s.report.json.filter (!·.isEmpty) = some destination → (Report.json? a).isSome) :
    Delivered s a after where
  json := by
    intro destination hdestination
    obtain ⟨content, hcontent⟩ := Option.isSome_iff_exists.mp (hjson destination hdestination)
    refine ⟨content, hcontent, ?_⟩
    rw [jsonReport_of_some hdestination hcontent, List.singleton_append] at hwrote
    rcases hwrote.read_first with hread | ⟨v, hv, place, hleads, hleads'⟩
    · exact .inl hread
    · cases hother : s.report.markdown.filter (!·.isEmpty) with
      | none =>
        rw [markdownReport_of_none hother] at hv
        cases hv
      | some other =>
        rw [markdownReport_of_some hother, List.mem_singleton] at hv
        rw [hv] at hleads'
        dsimp only at hleads'
        exact .inr ⟨other, place, rfl, hleads, hleads'⟩
  markdown := by
    intro destination hdestination
    rw [markdownReport_of_some hdestination] at hwrote
    exact hwrote.read_last

/-- A report that comes to its end was printed. -/
theorem isPrintable_of_report_ok {o : AnalyzeOptions} {settings : Settings} {a : Analysis} {n : Nat}
    (h : (report width o settings a).run.run s = (.ok n, t)) : isPrintable width a = true := by
  obtain ⟨_, u, hprinted, -⟩ := exists_of_run_bind_ok h
  obtain ⟨r, v, hrun, -, hall⟩ := run_forM_print width (Report.consolePrints a) s
  rw [hrun] at hprinted
  exact hall.mp (Prod.mk.inj hprinted).1

theorem json?_of_report_ok {o : AnalyzeOptions} {settings : Settings} {a : Analysis} {n : Nat}
    (h : (report width o settings a).run.run s = (.ok n, t)) (hdue : (a.results.isEmpty || o.noReport) = false)
    {destination : String} (hdestination : settings.report.json.filter (!·.isEmpty) = some destination) :
    (Report.json? a).isSome = true := by
  obtain ⟨_, u, -, h⟩ := exists_of_run_bind_ok h
  obtain ⟨_, v, hwrites, -⟩ := exists_of_run_bind_ok h
  unfold writeReports at hwrites
  rw [hdue] at hwrites
  obtain ⟨_, w, hjson, -⟩ := exists_of_run_bind_ok hwrites
  unfold writeJson at hjson
  rw [hdestination] at hjson
  cases hcontent : Report.json? a with
  | some content => rfl
  | none =>
    rw [hcontent] at hjson
    cases hjson

/-- An analysis that ends in success was reported, and its root could be looked at. -/
theorem report_of_analyze_ok {env : Environment} {o : AnalyzeOptions} {settings : Settings} {a : Analysis}
    (h : (analyze width env o).run.run s = (.ok 0, t)) (hload : Settings.load s.files env (o.request s.debug) = .ok settings)
    (hanalysis : Analysis.run s.files settings = .ok a) :
    (∃ e, s.files.inspect (s.files.resolve settings.root) = .ok e) ∧
      ∃ u, (report width o settings a).run.run u = (.ok 0, t) := by
  obtain ⟨session, u, hget, h⟩ := exists_of_run_bind_ok h
  cases hget
  rw [hload] at h
  obtain ⟨_, v, -, h⟩ := exists_of_run_bind_ok h
  cases hroot : s.files.inspect (s.files.resolve settings.root) with
  | error e =>
    rw [hroot] at h
    exact absurd (congrArg Prod.fst h) (fail_ne_zero width _ v)
  | ok e =>
    rw [hroot] at h
    obtain ⟨_, w, -, h⟩ := exists_of_run_bind_ok h
    rw [hanalysis] at h
    exact ⟨⟨e, rfl⟩, w, h⟩

/-- Reports are due only if there are settings, an analysis under them with at least one module, and no wish to do
without. -/
theorem exists_of_reportsDue {files : Files} {env : Environment} {arguments : List String}
    (h : reportsDue width files env arguments ≠ []) :
    ∃ invocation o s a, Invocation.ofArguments files arguments = .ok invocation ∧ invocation.task = .analyze o ∧
      Settings.load files env (o.request invocation.debug) = .ok s ∧ Analysis.run files s = .ok a ∧ a.results ≠ [] ∧
      o.noReport = false ∧ reportsDue width files env arguments = jsonReport s a ++ markdownReport s a := by
  unfold reportsDue at h ⊢
  cases hinvocation : Invocation.ofArguments files arguments with
  | error e =>
    rw [hinvocation] at h
    exact absurd rfl h
  | ok invocation =>
    rw [hinvocation] at h
    dsimp only at h
    cases htask : invocation.task with
    | help command =>
      rw [htask] at h
      exact absurd rfl h
    | version =>
      rw [htask] at h
      exact absurd rfl h
    | analyze o =>
      rw [htask, Task.reports, reportsOf] at h
      cases hload : Settings.load files env (o.request invocation.debug) with
      | error e =>
        rw [hload] at h
        exact absurd rfl h
      | ok s =>
        rw [hload] at h
        dsimp only at h
        split at h
        · rename_i e a hroot hanalysis
          have hprintable : isPrintable width a = true := by
            by_contra hno
            rw [reportsAfter, if_neg hno] at h
            exact h rfl
          have hdue : ¬(a.results.isEmpty || o.noReport) = true := by
            intro hdue
            rw [reportsAfter, if_pos hprintable, reports, if_pos hdue] at h
            exact h rfl
          rw [Bool.not_eq_true, Bool.or_eq_false_iff, List.isEmpty_eq_false_iff] at hdue
          refine ⟨invocation, o, s, a, rfl, htask, hload, hanalysis, hdue.1, hdue.2, ?_⟩
          simp only [htask, Task.reports, reportsOf, hload, hroot, hanalysis, reportsAfter, hprintable, if_true, reports,
            List.isEmpty_eq_false_iff.mpr hdue.1, hdue.2, Bool.or_false, Bool.false_eq_true, if_false]
        · exact absurd rfl h

section Trees

def openTree : Files := { top := [("src", .directory [("a.ts", .file [])])] }

/-- A tree whose second report cannot be written: a directory stands at its destination. -/
def blockedTree : Files := { openTree with top := ("sphere-report.md", .directory []) :: openTree.top }

/-- A tree with room for no more than three bytes of the first report. -/
def tightTree : Files :=
  { openTree with
    top := ("sphere-report.json", .file "earlier".toUTF8.toList) :: openTree.top, room := [(["sphere-report.json"], 3)] }

def endlessAlpha : List String := ["analyze", "--alpha", "inf"]

theorem eq_ok_of_toOption {ε : Type} {r : Except ε α} {a : α} (h : r.toOption = some a) : r = .ok a := by
  cases r with
  | error e => cases h
  | ok b => exact congrArg Except.ok (Option.some.inj h)

theorem run_openTree :
    (run 80 openTree [] endlessAlpha).status.toOption = some 0 ∧
      (reportsDue 80 openTree [] endlessAlpha).map (·.1) = ["/sphere-report.json", "/sphere-report.md"] := by
  decide +kernel

theorem run_blockedTree :
    (run 80 blockedTree [] endlessAlpha).status.toOption = some 1 ∧
      (reportsDue 80 blockedTree [] endlessAlpha).map (·.1) = ["/sphere-report.json", "/sphere-report.md"] ∧
      ((run 80 blockedTree [] endlessAlpha).session.files.leaf? ["sphere-report.json"]).isSome = true ∧
      ((run 80 blockedTree [] endlessAlpha).session.files.read "/sphere-report.md").toOption = none := by
  decide +kernel

end Trees

end CorpusShape.CommandLine
