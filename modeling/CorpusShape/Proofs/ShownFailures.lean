import CorpusShape.Proofs.CleanPaths
import CorpusShape.Proofs.PlainMarkup
import CorpusShape.Proofs.Sessions
import CorpusShape.Proofs.WrappedLines

/-!
# Failures on the console

The text of a failure is printed as markup, after a label in colour. It is shown word for word if and only if it is
plain; a name in brackets may be taken for a tag and is then left out, and a number between colons may be taken for the
name of a picture. A plain text without tabs stands in the lines that are printed, but for blanks where a line ends.
-/
namespace CorpusShape.CommandLine
variable {width : Nat} {files : Files} {env : Environment} {o : AnalyzeOptions} {text : String}

/-- The text of the failure that the command reports itself, if it does: of a configuration that cannot be used, of a
path that cannot be looked at, or of a source file that cannot be read. -/
def AnalyzeOptions.reported? (o : AnalyzeOptions) (files : Files) (env : Environment) (debug : Bool) : Option String :=
  match Settings.load files env (o.request debug) with
  | .error (.config e) => some e.message
  | .error (.file e) => some e.message
  | .error _ => none
  | .ok s =>
    match files.inspect (files.resolve s.root), Analysis.run files s with
    | .error e, _ => some e.message
    | .ok _, .error (.load (.unreadable failure)) => some failure.message
    | .ok _, _ => none

def reported? (files : Files) (env : Environment) (arguments : List String) : Option String :=
  match Invocation.ofArguments files arguments with
  | .ok { debug, task := .analyze o, .. } => o.reported? files env debug
  | _ => none

/-- A configuration that cannot be looked at is reported. -/
theorem reported?_of_checkFile {given : String} {e : FileFailure} {debug : Bool} (hconfig : o.config = some given)
    (h : files.checkFile (Path.under ((o.request debug).rootPath files env) (env.expandPath (Path.spelled given))) =
      .error e) : o.reported? files env debug = some e.message := by
  have hfile : (o.request debug).configFile files env = .error (.file e) := by
    have hpath : (o.request debug).configPath = some (Path.spelled given) := by
      rw [AnalyzeOptions.request, hconfig]
      rfl
    unfold Request.configFile
    simp only [hpath, h]
  have hload : Settings.load files env (o.request debug) = .error (.file e) := by
    unfold Settings.load
    rw [hfile]
    rfl
  unfold AnalyzeOptions.reported?
  rw [hload]

/-- A failure that the command reports ends it; before it, nothing was printed. -/
theorem analyze_of_reported (width : Nat) {s : Session} (h : o.reported? s.files env s.debug = some text) :
    ∃ t : Session, (analyze width env o).run.run s = (fail width text).run.run t ∧ t.output = s.output := by
  unfold analyze
  rw [run_bind_of_ok (run_get s)]
  unfold AnalyzeOptions.reported? at h
  cases hload : Settings.load s.files env (o.request s.debug) with
  | error e =>
    rw [hload] at h
    cases e with
    | config e =>
      cases h
      exact ⟨s, rfl, rfl⟩
    | file e =>
      cases h
      exact ⟨s, rfl, rfl⟩
    | _ => cases h
  | ok settings =>
    rw [hload] at h
    dsimp only at h ⊢
    rw [run_bind_of_ok (run_modify _ s)]
    cases hroot : s.files.inspect (s.files.resolve settings.root) with
    | error e =>
      rw [hroot] at h
      cases h
      exact ⟨{ s with debug := s.debug || settings.debug }, rfl, rfl⟩
    | ok _ =>
      obtain ⟨t, ht, -, houtput⟩ := run_forM_tell (Analysis.events s.files settings)
        { s with debug := s.debug || settings.debug }
      dsimp only
      rw [run_bind_of_ok ht]
      cases hrun : Analysis.run s.files settings with
      | ok a =>
        rw [hroot, hrun] at h
        cases h
      | error e =>
        rw [hroot, hrun] at h
        cases e with
        | score e => cases h
        | load e =>
          cases e with
          | unreadable failure =>
            cases h
            exact ⟨t, rfl, houtput⟩
          | tooManyPatterns => cases h

theorem run_fail_of_printed {out : String}
    (h : Console.printed width ("[red]Analyzer error:[/red] " ++ text) = .ok out) (s : Session) :
    ∃ t, (fail width text).run.run s = (.ok 1, t) ∧ t.output = s.output ++ out := by
  unfold fail
  rw [run_bind_of_ok (run_tell _ s), run_bind_of_ok (run_print_of_ok h _)]
  exact ⟨_, rfl, by rw [Session.output_told]⟩

theorem run_of_reported {arguments : List String} {out : String} (hreported : reported? files env arguments = some text)
    (h : Console.printed width ("[red]Analyzer error:[/red] " ++ text) = .ok out) :
    (run width files env arguments).status = .ok 1 ∧ (run width files env arguments).session.output = out := by
  unfold reported? at hreported
  split at hreported
  · rename_i debug logJson o hinvocation
    have hstart : o.reported? ({ files, debug } : Session).files env ({ files, debug } : Session).debug = some text :=
      hreported
    obtain ⟨t, ht, houtput⟩ := analyze_of_reported width hstart
    obtain ⟨u, hu, houtput'⟩ := run_fail_of_printed h t
    unfold run
    rw [hinvocation]
    dsimp only
    rw [perform, ht, hu]
    exact ⟨rfl, by rw [houtput', houtput]; exact String.empty_append⟩
  · cases hreported

theorem printed_of_shown (width : Nat) {markup out : String} (h : Console.shown markup = .ok out) :
    Console.printed width markup = .ok (String.join ((Console.wrap width out).map (· ++ "\n"))) := by
  unfold Console.printed
  rw [h]
  rfl

/-- The configuration is a link. -/
def linkedConfig (target : String) : Files where
  top := [("a.json", .link target)]

theorem checkFile_linkedConfig {target : String} (hsteps : Path.steps target = [target]) (hname : "a.json" ≠ target)
    (hup : target ≠ "..") (hlong : Files.nameLimit < target.utf8ByteSize) :
    (linkedConfig target).checkFile "/a.json" = .error ⟨.nameTooLong, "/a.json"⟩ := by
  have hrefusal : Files.refusal? "/a.json" = none := by decide
  have hpath : Path.steps "/a.json" = ["a.json"] := by decide
  have hlocate : (linkedConfig target).locate "/a.json" = .error .nameTooLong := by
    rw [Files.locate, hrefusal, hpath]
    simp [linkedConfig, Files.linkLimit, Files.follow, Files.descend, Files.start, Directory.at?, Directory.get?, hsteps,
      hname, hup, hlong]
  rw [Files.checkFile, Files.inspect, hlocate]
  rfl

def overlongName : String := String.ofList (List.replicate 86 '€')

theorem steps_ofList {cs : List Char} (h : '/' ∉ cs) (hempty : cs ≠ []) (hpoint : cs ≠ ['.']) :
    Path.steps (String.ofList cs) = [String.ofList cs] := by
  rw [Path.steps, String.toList_ofList, Path.parts_of_not_mem h]
  simp [hempty, hpoint]

theorem steps_overlongName : Path.steps overlongName = [overlongName] :=
  steps_ofList (by simp) (by simp) (by simp [List.replicate])

/-- The task is to analyse the working directory with the given configuration. -/
def Task.asks (given : String) : Task → Bool
  | .analyze o => o.root.isNone && o.config == some given
  | _ => false

/-- What the two failures below are about, evaluated together. -/
theorem readings_of_arguments :
    reported? {} [] ["analyze", "--config", "a.json"] = some "Config file not found: /a.json" ∧
      ((Invocation.ofArguments (linkedConfig overlongName) ["analyze", "--config", "a.json"]).toOption.any
        fun i => i.task.asks "a.json") = true ∧
      Path.under "/" (Environment.expandPath [] (Path.spelled "a.json")) = "/a.json" ∧
      "a.json" ≠ overlongName ∧ overlongName ≠ ".." ∧ Files.nameLimit < overlongName.utf8ByteSize := by
  decide +kernel

theorem reported_overlongName : reported? (linkedConfig overlongName) [] ["analyze", "--config", "a.json"] =
    some "[Errno 36] File name too long: '/a.json'" := by
  obtain ⟨-, hinvocation, hpath, hname, hup, hlong⟩ := readings_of_arguments
  have hcheck := checkFile_linkedConfig steps_overlongName hname hup hlong
  unfold reported?
  generalize Invocation.ofArguments (linkedConfig overlongName) ["analyze", "--config", "a.json"] = answer at hinvocation ⊢
  cases answer with
  | error e => cases hinvocation
  | ok i =>
    obtain ⟨debug, logJson, task⟩ := i
    cases task with
    | analyze o =>
      obtain ⟨hroot, hconfig⟩ : o.root = none ∧ o.config = some "a.json" := by
        simpa [Except.toOption, Task.asks] using hinvocation
      have hrootPath : (o.request debug).rootPath (linkedConfig overlongName) [] = "/" := by
        rw [AnalyzeOptions.request, hroot]
        rfl
      refine (reported?_of_checkFile hconfig (e := ⟨.nameTooLong, "/a.json"⟩) ?_).trans ?_
      · rw [hrootPath, hpath, hcheck]
      · rfl
    | _ => cases hinvocation

end CorpusShape.CommandLine
