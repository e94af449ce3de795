import CorpusShape.Proofs.SettingSources
import CorpusShape.Proofs.Tables
import CorpusShape.Proofs.YamlFaults

/-!
# What the content of a configuration file may lead to

Where nothing else gives settings, the content of a configuration file leads to settings or to an error of the
configuration, with three exceptions: YAML that is read with a fault, a mapping of YAML with a name that is no text, and
names that are reserved. This holds for whatever reads YAML and whatever reserved names lead to. JSON without reserved
names never leads to anything else.
-/
namespace CorpusShape

/-- The entries of a table are pairs that it was made of. -/
theorem Table.forall_mem_ofPairs {α : Type} {P : String × α → Prop} {pairs : List (String × α)} (h : ∀ p ∈ pairs, P p) :
    ∀ p ∈ Table.ofPairs pairs, P p := by
  have hfold : ∀ t : Table α, (∀ p ∈ t, P p) → ∀ p ∈ pairs.foldl (fun t p => t.put p.1 p.2) t, P p := by
    induction pairs with
    | nil => exact fun t ht => ht
    | cons p pairs ih =>
      obtain ⟨hp, hrest⟩ := List.forall_mem_cons.mp h
      exact fun t ht => ih hrest (t.put p.1 p.2) (Table.forall_mem_put ht hp)
  exact hfold [] (by simp)

namespace Settings
variable {env : Environment}

/-- No variable is meant for the settings. -/
def Unset (env : Environment) : Prop := ∀ p ∈ env, ¬"sphere_".toList <+: (lowerText p.1).toList

theorem Unset.lowered (h : Unset env) : ∀ p ∈ lowered env, ¬"sphere_".toList <+: p.1.toList := by
  refine Table.forall_mem_ofPairs fun p hp => ?_
  obtain ⟨q, hq, rfl⟩ := List.mem_map.mp hp
  exact h q hq

theorem members_eq_nil {env : Environment} (h : ∀ p ∈ env, ¬"sphere_".toList <+: p.1.toList) (group : String) :
    members env group = [] := by
  have hstart : ∀ name : String, ¬"sphere_".toList <+: name.toList →
      name.startsWith ("sphere_" ++ group ++ "__") = false := by
    intro name hname
    rw [Bool.eq_false_iff, Ne, String.startsWith_string_iff, String.toList_append, String.toList_append]
    exact fun hprefix => hname (((List.prefix_append _ _).trans (List.prefix_append _ _)).trans hprefix)
  unfold members
  induction env with
  | nil => rfl
  | cons p env ih =>
    obtain ⟨hp, hrest⟩ := List.forall_mem_cons.mp h
    obtain ⟨name, value⟩ := p
    rw [List.foldl_cons]
    dsimp only
    rw [hstart name hp]
    exact ih hrest

/-- Variables that are not meant for the settings give none. -/
theorem ofVariables_of_unset (h : Unset env) : ofVariables env = .ok [] := by
  have hlowered := h.lowered
  have hnone : ∀ rule : VariableRule, fromVariables? (Settings.lowered env) rule = .ok none := by
    intro rule
    have hraw : (Settings.lowered env).get? ("sphere_" ++ rule.name) = none := by
      refine Table.get?_eq_none fun hmem => ?_
      obtain ⟨p, hp, hname⟩ := List.mem_map.mp hmem
      refine hlowered p hp ?_
      rw [hname, String.toList_append]
      exact List.prefix_append _ _
    unfold fromVariables?
    rw [hraw, members_eq_nil hlowered]
    cases rule.form <;> rfl
  unfold ofVariables
  simp only [hnone]
  rfl

end Settings

section Json

theorem forall_isText_put {entries : Entries} (h : ∀ p ∈ entries, Settings.isText p.1 = true) (name : String)
    (v : Value) : ∀ p ∈ entries.put (.text name) v, Settings.isText p.1 = true := by
  intro p hp
  rcases Entries.exists_of_mem_put hp with hkey | ⟨q, hq, hkey⟩
  · rw [hkey]
    rfl
  · rw [← hkey]
    exact h q hq

/-- The names of an object are texts. -/
theorem isText_of_ofFields? {rule : Value.NumberRule} {done entries : Entries} {fields : List (String × Json)}
    (h : Value.ofFields? rule done fields = some entries) (hdone : ∀ p ∈ done, Settings.isText p.1 = true) :
    ∀ p ∈ entries, Settings.isText p.1 = true := by
  induction fields generalizing done with
  | nil =>
    rw [Value.ofFields?] at h
    cases h
    exact hdone
  | cons field fields ih =>
    rw [Value.ofFields?] at h
    split at h
    · exact ih h (forall_isText_put hdone _ _)
    · cases h

theorem ofNumber?_ne_map (rule : Value.NumberRule) (literal : String) (entries : Entries) :
    Value.ofNumber? rule literal ≠ some (.map entries) := by
  have hfloat : ∀ x : Option Float, (x.bind fun x =>
      if (rule.finite && !Double.isFinite x) = true then none else some (Value.float x)) ≠ some (.map entries) := by
    intro x h
    obtain ⟨x, -, hx⟩ := Option.bind_eq_some_iff.mp h
    split at hx
    · cases hx
    · cases hx
  have hint : ∀ (c : Bool) (x : Option Value) (i : Int), x ≠ some (.map entries) →
      (if c = true then x else some (.int i)) ≠ some (.map entries) := by
    intro c x i hx
    split
    · exact hx
    · simp
  unfold Value.ofNumber?
  dsimp only
  by_cases hwhole : Value.isWholeLiteral literal.toList = true
  · rw [if_pos hwhole]
    exact hint _ _ _ (hfloat _)
  · rw [if_neg hwhole]
    exact hfloat _

theorem isText_of_ofJson? {rule : Value.NumberRule} {json : Json} {entries : Entries}
    (h : Value.ofJson? rule json = some (.map entries)) : ∀ p ∈ entries, Settings.isText p.1 = true := by
  cases json with
  | object fields =>
    rw [Value.ofJson?] at h
    obtain ⟨entries', hfields, hentries⟩ := Option.map_eq_some_iff.mp h
    cases hentries
    exact isText_of_ofFields? hfields (by simp)
  | array items =>
    rw [Value.ofJson?] at h
    obtain ⟨_, -, hentries⟩ := Option.map_eq_some_iff.mp h
    cases hentries
  | number literal =>
    rw [Value.ofJson?] at h
    exact absurd h (ofNumber?_ne_map rule literal entries)
  | _ =>
    rw [Value.ofJson?] at h
    cases h

/-- The names in a JSON file are texts. -/
theorem isText_of_jsonValue? {bytes : List UInt8} {entries : Entries}
    (h : Config.jsonValue? bytes = some (.map entries)) : ∀ p ∈ entries, Settings.isText p.1 = true := by
  unfold Config.jsonValue? at h
  split at h
  · cases h
    simp
  · obtain ⟨text, -, h⟩ := Option.bind_eq_some_iff.mp h
    obtain ⟨json, -, h⟩ := Option.bind_eq_some_iff.mp h
    exact isText_of_ofJson? h

end Json

section Content
variable {readers : Readers} {path : String} {bytes : List UInt8}

namespace Config

/-- The value that the content of a configuration file gives. YAML that says nothing gives an empty mapping. -/
inductive Holds (readers : Readers) (path : String) (bytes : List UInt8) : Value → Prop
  | json {v : Value} (hpath : Path.suffix path = ".json") (hjson : jsonValue? bytes = some v) :
      Holds readers path bytes v
  | yaml {v : Value} (hpath : Path.suffix path ≠ ".json") (hyaml : readers.yaml bytes = .ok v)
      (hv : v.isFalsy = false) : Holds readers path bytes v
  | nothing {v : Value} (hpath : Path.suffix path ≠ ".json") (hyaml : readers.yaml bytes = .ok v)
      (hv : v.isFalsy = true) : Holds readers path bytes (.map [])

/-- The content of a configuration file is no JSON, or no YAML. -/
inductive Malformed (readers : Readers) (path : String) (bytes : List UInt8) : Prop
  | json (hpath : Path.suffix path = ".json") (hjson : jsonValue? bytes = none) : Malformed readers path bytes
  | yaml (hpath : Path.suffix path ≠ ".json") (hyaml : readers.yaml bytes = .error .malformed) :
      Malformed readers path bytes

/-- An error that the content of a configuration file leads to and that is no error of the configuration. -/
inductive Stray (readers : Readers) (path : String) (bytes : List UInt8) : SettingsError → Prop
  | fault {fault : Yaml.Fault} (hpath : Path.suffix path ≠ ".json") (hyaml : readers.yaml bytes = .error fault)
      (hfault : fault ≠ .malformed) : Stray readers path bytes (.content fault)
  | name {entries : Entries} {p : Value × Value} (hcontent : Holds readers path bytes (.map entries)) (hp : p ∈ entries)
      (hname : Settings.isText p.1 = false) : Stray readers path bytes .nameNotText
  | reserved {entries : Entries} {e : SettingsError} (hcontent : Holds readers path bytes (.map entries))
      (hnames : ∀ p ∈ entries, Settings.isText p.1 = true) (houtcome : readers.outcome? entries = some (.error e)) :
      Stray readers path bytes e

def entriesOf (path : String) : Value → Except SettingsError Entries
  | .map entries => .ok entries
  | v => .error (.config (.notMapping path v.kind))

theorem entriesOf_of_not_map {v : Value} (h : v.isMap = false) (path : String) :
    entriesOf path v = .error (.config (.notMapping path v.kind)) := by
  cases v with
  | map entries => cases h
  | _ => rfl

theorem ofBytes_json (hpath : Path.suffix path = ".json") :
    ofBytes path bytes readers = match jsonValue? bytes with
      | some v => entriesOf path v
      | none => .error (.config (.malformed path "not a JSON document")) := by
  unfold ofBytes
  rw [hpath]
  cases jsonValue? bytes with
  | none => rfl
  | some v => cases v <;> rfl

theorem ofBytes_yaml (hpath : Path.suffix path ≠ ".json") :
    ofBytes path bytes readers = match yamlValue readers bytes with
      | .ok v => entriesOf path v
      | .error .malformed => .error (.config (.malformed path "not a YAML document"))
      | .error fault => .error (.content fault) := by
  unfold ofBytes
  rw [if_neg (by simpa using hpath)]
  cases yamlValue readers bytes with
  | error fault => cases fault <;> rfl
  | ok v => cases v <;> rfl

theorem ofBytes_of_content {v : Value} (h : Holds readers path bytes v) : ofBytes path bytes readers = entriesOf path v := by
  cases h with
  | json hpath hjson => rw [ofBytes_json hpath, hjson]
  | yaml hpath hyaml hv =>
    rw [ofBytes_yaml hpath, yamlValue, hyaml, Except.map, hv]
    rfl
  | nothing hpath hyaml hv =>
    rw [ofBytes_yaml hpath, yamlValue, hyaml, Except.map, hv]
    rfl

theorem ofBytes_of_malformed (h : Malformed readers path bytes) :
    ∃ detail, ofBytes path bytes readers = .error (.config (.malformed path detail)) := by
  cases h with
  | json hpath hjson => exact ⟨_, by rw [ofBytes_json hpath, hjson]⟩
  | yaml hpath hyaml => exact ⟨_, by rw [ofBytes_yaml hpath, yamlValue, hyaml, Except.map]⟩

theorem ofBytes_of_fault {fault : Yaml.Fault} (hpath : Path.suffix path ≠ ".json")
    (hyaml : readers.yaml bytes = .error fault) (hfault : fault ≠ .malformed) :
    ofBytes path bytes readers = .error (.content fault) := by
  rw [ofBytes_yaml hpath, yamlValue, hyaml, Except.map]
  cases fault with
  | malformed => exact absurd rfl hfault
  | _ => rfl

/-- A content is malformed, or it gives a value, or YAML is read with another fault. -/
theorem content_cases (readers : Readers) (path : String) (bytes : List UInt8) :
    Malformed readers path bytes ∨ (∃ v, Holds readers path bytes v) ∨
      ∃ fault, Path.suffix path ≠ ".json" ∧ readers.yaml bytes = .error fault ∧ fault ≠ .malformed := by
  by_cases hpath : Path.suffix path = ".json"
  · cases hjson : jsonValue? bytes with
    | none => exact .inl (.json hpath hjson)
    | some v => exact .inr (.inl ⟨v, .json hpath hjson⟩)
  · cases hyaml : readers.yaml bytes with
    | error fault =>
      by_cases hfault : fault = .malformed
      · exact .inl (.yaml hpath (hfault ▸ hyaml))
      · exact .inr (.inr ⟨fault, hpath, rfl, hfault⟩)
    | ok v =>
      cases hv : v.isFalsy with
      | false => exact .inr (.inl ⟨v, .yaml hpath hyaml hv⟩)
      | true => exact .inr (.inl ⟨_, .nothing hpath hyaml hv⟩)

theorem Holds.isText_of_json {entries : Entries} (h : Holds readers path bytes (.map entries))
    (hpath : Path.suffix path = ".json") : ∀ p ∈ entries, Settings.isText p.1 = true := by
  cases h with
  | json _ hjson => exact isText_of_jsonValue? hjson
  | yaml hother => exact absurd hpath hother
  | nothing hother => exact absurd hpath hother

/-- With the YAML of this library, and where reserved names have no effect, a content is stray by a name that is no
text, by an escape or a number in its tokens, or by a scalar that does not fit its tag. -/
theorem Stray.standard {e : SettingsError} (h : Stray {} path bytes e) :
    e = .nameNotText ∨ ∃ fault cs, e = .content fault ∧ Yaml.charsOf? bytes = some cs ∧
      ((Yaml.tokens cs = .error fault ∧ fault.OfToken) ∨
        ∃ ts node, Yaml.tokens cs = .ok ts ∧ Yaml.Node.ofTokens ts = .ok (some node) ∧ node.Blames fault) := by
  cases h with
  | fault hpath hyaml hfault =>
    obtain ⟨cs, hchars, hcause⟩ := Yaml.load_fault hyaml hfault
    exact .inr ⟨_, cs, rfl, hchars, hcause⟩
  | name => exact .inl rfl
  | reserved hcontent hnames houtcome =>
    rw [Settings.outcome?_standard] at houtcome
    cases houtcome

end Config

namespace Settings
variable {files : Files} {env : Environment} {r : Request}

section Outcomes
variable {entries : Entries} {e : SettingsError} (hpath : r.configFile files env = .ok (some path))
  (hread : files.read path = .ok bytes)

theorem configLoad_of_read (hread : files.read path = .ok bytes) :
    Config.load files path readers = Config.ofBytes path bytes readers := by
  unfold Config.load
  rw [hread]

include hpath hread

theorem load_of_file_error (h : Config.ofBytes path bytes readers = .error e) :
    load files env r readers = .error e := by
  have hfile : Config.load files path readers = .error e := (configLoad_of_read hread).trans h
  unfold load
  simp only [hpath, bind, Except.bind, hfile]

theorem load_of_not_map {v : Value} (hcontent : Config.Holds readers path bytes v) (hv : v.isMap = false) :
    load files env r readers = .error (.config (.notMapping path v.kind)) :=
  load_of_file_error hpath hread ((Config.ofBytes_of_content hcontent).trans (Config.entriesOf_of_not_map hv path))

variable (hoverrides : r.overrides = []) (hcontent : Config.Holds readers path bytes (.map entries))
include hoverrides hcontent

theorem load_of_name {p : Value × Value} (hp : p ∈ entries) (hname : isText p.1 = false) :
    load files env r readers = .error .nameNotText := by
  have hfile : Config.load files path readers = .ok entries :=
    (configLoad_of_read hread).trans (Config.ofBytes_of_content hcontent)
  have hany : ((entries.merge r.overrides).any fun p => !isText p.1) = true := by
    rw [hoverrides]
    refine List.any_eq_true.mpr ⟨p, hp, ?_⟩
    rw [hname]
    rfl
  unfold load
  simp only [hpath, bind, Except.bind, hfile, hany]
  rfl

theorem load_of_outcome {outcome : Except SettingsError Settings} (hnames : ∀ p ∈ entries, isText p.1 = true)
    (houtcome : readers.outcome? entries = some outcome) : load files env r readers = outcome := by
  have hfile : Config.load files path readers = .ok entries :=
    (configLoad_of_read hread).trans (Config.ofBytes_of_content hcontent)
  have hmerge : entries.merge r.overrides = entries := by
    rw [hoverrides]
    rfl
  have hall : (entries.any fun p => !isText p.1) = false := by
    rw [List.any_eq_false]
    intro p hp
    simp [hnames p hp]
  unfold load
  simp only [hpath, bind, Except.bind, hfile, hmerge, hall, houtcome]
  rfl

theorem load_of_map (hunset : Unset env) (hnames : ∀ p ∈ entries, isText p.1 = true)
    (houtcome : readers.outcome? entries = none) :
    (∃ s, load files env r readers = .ok s) ∨
      ∃ problems, load files env r readers = .error (.config (.invalid (some path) problems)) := by
  have hfile : fileEntries files (some path) readers = .ok entries :=
    (configLoad_of_read hread).trans (Config.ofBytes_of_content hcontent)
  have hmerge : entries.merge r.overrides = entries := by
    rw [hoverrides]
    rfl
  rw [load_eq hpath hfile (ofVariables_of_unset hunset) (by rwa [hmerge]) (by rwa [hmerge])]
  cases ofEntries (r.rootPath files env) (Entries.merge [] (known (entries.merge r.overrides))) with
  | ok s => exact .inl ⟨s, rfl⟩
  | bad problems => exact .inr ⟨problems, rfl⟩

omit hcontent

/-- An error that is none of the configuration is stray. -/
theorem config_or_stray (hunset : Unset env) (h : load files env r readers = .error e) :
    (∃ c, e = .config c) ∨ Config.Stray readers path bytes e := by
  rcases Config.content_cases readers path bytes with hbad | ⟨v, hcontent⟩ | ⟨fault, hsuffix, hyaml, hfault⟩
  · obtain ⟨detail, hdetail⟩ := Config.ofBytes_of_malformed hbad
    exact .inl ⟨_, Except.error.inj (h.symm.trans (load_of_file_error hpath hread hdetail))⟩
  · cases hv : v.isMap with
    | false => exact .inl ⟨_, Except.error.inj (h.symm.trans (load_of_not_map hpath hread hcontent hv))⟩
    | true =>
      obtain ⟨entries, rfl⟩ : ∃ entries, v = .map entries := by
        cases v with
        | map entries => exact ⟨entries, rfl⟩
        | _ => cases hv
      by_cases hnames : ∀ p ∈ entries, isText p.1 = true
      · cases houtcome : readers.outcome? entries with
        | none =>
          rcases load_of_map hpath hread hoverrides hcontent hunset hnames houtcome with ⟨s, hs⟩ | ⟨problems, hproblems⟩
          · cases h.symm.trans hs
          · exact .inl ⟨_, Except.error.inj (h.symm.trans hproblems)⟩
        | some outcome =>
          rw [load_of_outcome hpath hread hoverrides hcontent hnames houtcome] at h
          exact .inr (.reserved hcontent hnames (h ▸ houtcome))
      · push Not at hnames
        obtain ⟨p, hp, hother⟩ := hnames
        have hname : isText p.1 = false := Bool.eq_false_iff.mpr hother
        rw [load_of_name hpath hread hoverrides hcontent hp hname] at h
        exact .inr (Except.error.inj h ▸ .name hcontent hp hname)
  · rw [load_of_file_error hpath hread (Config.ofBytes_of_fault hsuffix hyaml hfault)] at h
    exact .inr (Except.error.inj h ▸ .fault hsuffix hyaml hfault)

theorem load_of_stray (h : Config.Stray readers path bytes e) : load files env r readers = .error e := by
  cases h with
  | fault hsuffix hyaml hfault => exact load_of_file_error hpath hread (Config.ofBytes_of_fault hsuffix hyaml hfault)
  | name hcontent hp hname => exact load_of_name hpath hread hoverrides hcontent hp hname
  | reserved hcontent hnames houtcome => exact load_of_outcome hpath hread hoverrides hcontent hnames houtcome

end Outcomes

theorem outcome?_eq_none {entries : Entries} (h : ∀ p ∈ entries, Readers.isReserved p.1 = false) :
    readers.outcome? entries = none :=
  if_neg (by simpa using fun k v hp => h (k, v) hp)

/-- What the content of a configuration file leads to where nothing else gives settings. If it is malformed or no mapping,
this is an error of the configuration; a mapping of names, none of them reserved, gives settings or such an error. Every
other error is stray, and JSON is stray only by reserved names. -/
theorem load_content_errors (readers : Readers) (files : Files) (env : Environment) (r : Request) (path : String)
    (bytes : List UInt8) (hoverrides : r.overrides = []) (hunset : Unset env)
    (hpath : r.configFile files env = .ok (some path)) (hread : files.read path = .ok bytes) :
    (Config.Malformed readers path bytes →
      ∃ detail, load files env r readers = .error (.config (.malformed path detail))) ∧
    (∀ v, Config.Holds readers path bytes v → v.isMap = false →
      load files env r readers = .error (.config (.notMapping path v.kind))) ∧
    (∀ entries, Config.Holds readers path bytes (.map entries) → (∀ p ∈ entries, isText p.1 = true) →
      (∀ p ∈ entries, Readers.isReserved p.1 = false) →
      (∃ s, load files env r readers = .ok s) ∨
        ∃ problems, load files env r readers = .error (.config (.invalid (some path) problems))) ∧
    (∀ e, (∀ c, e ≠ .config c) → (load files env r readers = .error e ↔ Config.Stray readers path bytes e)) ∧
    (Path.suffix path = ".json" →
      (∀ entries, Config.Holds readers path bytes (.map entries) → ∀ p ∈ entries, Readers.isReserved p.1 = false) →
      ∀ e, load files env r readers = .error e → ∃ c, e = .config c) := by
  refine ⟨fun h => ?_, fun v hcontent hv => load_of_not_map hpath hread hcontent hv, fun entries hcontent hnames hfree =>
    load_of_map hpath hread hoverrides hcontent hunset hnames (outcome?_eq_none hfree), fun e he =>
    ⟨fun h => ?_, fun h => load_of_stray hpath hread hoverrides h⟩, fun hjson hfree e h => ?_⟩
  · obtain ⟨detail, hdetail⟩ := Config.ofBytes_of_malformed h
    exact ⟨detail, load_of_file_error hpath hread hdetail⟩
  · exact (config_or_stray hpath hread hoverrides hunset h).resolve_left fun ⟨c, hc⟩ => he c hc
  · refine (config_or_stray hpath hread hoverrides hunset h).resolve_right fun hstray => ?_
    cases hstray with
    | fault hsuffix => exact hsuffix hjson
    | name hcontent hp hname =>
      rw [hcontent.isText_of_json hjson _ hp] at hname
      cases hname
    | reserved hcontent _ houtcome =>
      rw [outcome?_eq_none (hfree _ hcontent)] at houtcome
      cases houtcome

section Yaml

def yamlConfigured (content : String) : Files where
  top := [("sphere.config.yaml", .file content.toUTF8.toList)]

theorem locate_yamlConfigured (content : String) {path name : String} (hpath : Files.refusal? path = none)
    (hsteps : Path.steps path = [name]) :
    (yamlConfigured content).locate path =
      Files.follow [("sphere.config.yaml", .file content.toUTF8.toList)] Files.linkLimit [] [name] := by
  have hstart : (yamlConfigured content).start path = [] := ite_self []
  rw [Files.locate, hpath, hsteps, hstart]
  rfl

theorem read_yamlConfigured (content : String) :
    (yamlConfigured content).read "/sphere.config.yaml" = .ok content.toUTF8.toList := by
  rw [Files.read, locate_yamlConfigured content (by decide) (by decide : _ = ["sphere.config.yaml"])]
  rfl

/-- The names of configurations, and the tokens of two contents, evaluated together. -/
theorem names_and_tokens :
    Config.fileNames.map (Path.under "/") = ["/sphere.config.json", "/sphere.config.yaml", "/sphere.config.yml"] ∧
      ((Yaml.charsOf? "1: a\n".toUTF8.toList).bind fun cs => (Yaml.tokens cs).toOption) =
        some [.blockMapping, .key, .scalar "1" true, .value, .scalar "a" true, .blockEnd] ∧
      ((Yaml.charsOf? "2021-13-45".toUTF8.toList).bind fun cs => (Yaml.tokens cs).toOption) =
        some [.scalar "2021-13-45" true] := by
  decide +kernel

theorem configFile_yamlConfigured (content : String) :
    ({} : Request).configFile (yamlConfigured content) [] = .ok (some "/sphere.config.yaml") := by
  have hjson : (yamlConfigured content).checkFile "/sphere.config.json" = .ok false := by
    rw [Files.checkFile, Files.inspect,
      locate_yamlConfigured content (by decide) (by decide : _ = ["sphere.config.json"])]
    rfl
  have hyaml : (yamlConfigured content).checkFile "/sphere.config.yaml" = .ok true := by
    rw [Files.checkFile, Files.inspect,
      locate_yamlConfigured content (by decide) (by decide : _ = ["sphere.config.yaml"])]
    rfl
  have hroot : ({} : Request).rootPath (yamlConfigured content) [] = "/" := rfl
  simp only [Request.configFile, hroot, Config.find?, names_and_tokens.1, List.findM?, hjson, hyaml, bind, Except.bind]
  rfl

theorem suffix_yamlConfigured : Path.suffix "/sphere.config.yaml" ≠ ".json" := by decide

/-- A number for the name of a setting. -/
theorem load_numbered : Yaml.load "1: a\n".toUTF8.toList = .ok (.map [(.int 1, .text "a")]) := by
  rw [Yaml.load_of_tokens names_and_tokens.2.1]
  change Yaml.Node.toValue (.mapping .map [(.scalar .int "1", .scalar .str "a")]) = _
  rw [Yaml.Node.toValue, Yaml.Node.toEntries, Yaml.Node.toEntries, if_neg (by decide), Yaml.Node.toKey,
    Yaml.Node.toValue, Yaml.Node.toValue]
  · rfl
  · simp
  · simp

/-- A date without such a month. -/
theorem load_dated : Yaml.load "2021-13-45".toUTF8.toList = .error (.badText "month must be in 1..12") := by
  rw [Yaml.load_of_tokens names_and_tokens.2.2]
  change Yaml.Node.toValue (.scalar .timestamp "2021-13-45") = _
  rw [Yaml.Node.toValue]
  rfl

theorem eq_map_nil {v : Option Value} (h : (v.any fun v => v.isMap && v.isFalsy) = true) : v = some (.map []) := by
  cases v with
  | none => cases h
  | some v =>
    cases v with
    | map entries =>
      cases entries with
      | nil => rfl
      | cons => cases h
    | _ => cases h

theorem content_numbered :
    Config.Holds {} "/sphere.config.yaml" "1: a\n".toUTF8.toList (.map [(.int 1, .text "a")]) :=
  .yaml suffix_yamlConfigured load_numbered rfl

theorem load_content_errors_numbered :
    Unset [] ∧ ({} : Request).configFile (yamlConfigured "1: a\n") [] = .ok (some "/sphere.config.yaml") ∧
      load (yamlConfigured "1: a\n") [] {} = .error .nameNotText ∧
      ∃ s, load (configured "\x7b\x7d") [] {} = .ok s := by
  have hunset : Unset [] := by simp [Unset]
  obtain ⟨-, -, -, hstray, -⟩ := load_content_errors {} (yamlConfigured "1: a\n") [] {} "/sphere.config.yaml" _ rfl hunset
    (configFile_yamlConfigured _) (read_yamlConfigured _)
  refine ⟨hunset, configFile_yamlConfigured _, (hstray .nameNotText (by simp)).mpr ?_, ?_⟩
  · exact .name content_numbered (List.mem_singleton_self _) rfl
  · have hpath : ({} : Request).configFile (configured "\x7b\x7d") [] = .ok (some "/sphere.config.json") :=
      (eq_ok_getD (by decide +kernel) none).trans (congrArg Except.ok (by decide +kernel))
    have hread := eq_ok_getD
      (by decide +kernel : ((configured "\x7b\x7d").read "/sphere.config.json").toOption.isSome) []
    obtain ⟨-, -, hmap, -⟩ := load_content_errors {} (configured "\x7b\x7d") [] {} "/sphere.config.json" _ rfl hunset hpath
      hread
    have hjson : Config.jsonValue? (((configured "\x7b\x7d").read "/sphere.config.json").toOption.getD []) =
        some (.map []) := eq_map_nil (by decide +kernel)
    refine (hmap [] (.json (by decide) hjson) (by simp) (by simp)).resolve_right fun ⟨problems, hproblems⟩ => ?_
    have hsome : (load (configured "\x7b\x7d") [] {}).toOption.isSome := by decide +kernel
    rw [hproblems] at hsome
    cases hsome

/-- Two contents that lead to no error of the configuration and to no settings. -/
theorem stray_contents :
    load (yamlConfigured "1: a\n") [] {} = .error .nameNotText ∧
      load (yamlConfigured "2021-13-45") [] {} = .error (.content (.badText "month must be in 1..12")) :=
  ⟨load_of_name (configFile_yamlConfigured _) (read_yamlConfigured _) rfl content_numbered (List.mem_singleton_self _) rfl,
    load_of_file_error (configFile_yamlConfigured _) (read_yamlConfigured _)
      (Config.ofBytes_of_fault suffix_yamlConfigured load_dated (by decide))⟩

end Yaml

end Settings

end Content

end CorpusShape
