import CorpusShape.Config
import CorpusShape.Proofs.SettingRecords
import Mathlib.Data.List.Find

/-!
# Which source a setting comes from

What is given directly goes before the configuration file, that before variables, and these before standard values, for
every single setting. A group is taken over member by member; thresholds are off if the first source that gives them
gives null. A setting with two names is read under its short name first, whichever source writes it. Sources that write
the names of weights differently cannot be used together.
-/
namespace CorpusShape

namespace Settings

def groups (name : String) (sources : List Entries) : List Entries := sources.map fun e => membersOf (e.text? name)

/-- The sources that give a weight all give it under the same name. -/
def WeightsAlike (sources : List Entries) : Prop := ∀ n ∈ Weights.names, n.Alike (groups "weights" sources)

instance (sources : List Entries) : Decidable (WeightsAlike sources) :=
  inferInstanceAs (Decidable (∀ n ∈ Weights.names, _))

/-- The thresholds are off if the first source that gives them gives null, and else come from the sources one by one; a
null after a mapping takes nothing away. -/
def ThresholdsFrom (sources : List Entries) : Option Thresholds → Prop
  | none => sources.findSome? (·.text? "thresholds") = some .null
  | some t =>
    sources.findSome? (·.text? "thresholds") ≠ some .null ∧
      Field.Name.Effective ⟨"good", none⟩ (groups "thresholds" sources) Field.number ({} : Thresholds).good t.good ∧
      Field.Name.Effective ⟨"warning", none⟩ (groups "thresholds" sources) Field.number ({} : Thresholds).warning t.warning

/-- Every single setting comes from the sources, of which the first go before the others. -/
structure FromSources (sources : List Entries) (s : Settings) : Prop where
  debug : Field.Name.Effective ⟨"debug", none⟩ sources Field.truth (standard s.root).debug s.debug
  included : Field.Name.Effective ⟨"include", none⟩ sources Field.texts (standard s.root).included s.included
  excluded : Field.Name.Effective ⟨"exclude", none⟩ sources Field.texts (standard s.root).excluded s.excluded
  alpha : Field.Name.Effective ⟨"alpha", none⟩ sources Field.positive (standard s.root).alpha s.alpha
  weights : ∀ f ∈ s.weights.fields, f.1.Effective (groups "weights" sources) Weights.reader f.2.1 f.2.2
  thresholds : ThresholdsFrom sources s.thresholds
  json : Field.Name.Effective ⟨"json_path", some "json"⟩ (groups "report" sources) (Field.optional Field.text)
    ({} : ReportSettings).json s.report.json
  markdown : Field.Name.Effective ⟨"markdown_path", some "markdown"⟩ (groups "report" sources)
    (Field.optional Field.text) ({} : ReportSettings).markdown s.report.markdown
  style : Field.Name.Effective ⟨"markdown_style", none⟩ (groups "report" sources) MarkdownStyle.ofValue
    ({} : ReportSettings).style s.report.style

section Layers

/-- Three mappings of settings, each of which can be used on its own, and what they are together. -/
structure Layers (root : String) (upper middle lower merged : Entries) : Prop where
  stacked : Stacked upper middle lower merged names
  valid : ∀ e ∈ [upper, middle, lower], ∃ s, ofEntries root e = .ok s
  upper_distinct : ∀ name, (membersOf (upper.text? name)).Distinct
  middle_distinct : ∀ name, (membersOf (middle.text? name)).Distinct

variable {root name : String} {upper middle lower merged : Entries}

theorem Layers.plain {α : Type} {reader : Value → Checked α} {standard : α} (h : Layers root upper middle lower merged)
    (hname : name ∈ names) (hmap : ∀ g a, reader (.map g) ≠ .ok a)
    (hsources : ∀ e ∈ [upper, middle, lower], ∃ a, Field.Name.read ⟨name, none⟩ e reader standard = .ok a) :
    ∃ a, Field.Name.read ⟨name, none⟩ merged reader standard = .ok a ∧
      Field.Name.Effective ⟨name, none⟩ [upper, middle, lower] reader standard a := by
  refine Stacked.read (fun s hs => h.stacked s ?_) hmap hsources
  rw [List.mem_singleton.mp hs]
  exact hname

/-- The members of a group that the upper sources give as a mapping or not at all. -/
theorem Layers.members (h : Layers root upper middle lower merged) (hname : name ∈ names)
    (hupper : IsGroup (upper.text? name)) (hboth : IsGroup (layered (upper.text? name) (middle.text? name))) :
    (∀ ns, Stacked (membersOf (upper.text? name)) (membersOf (middle.text? name)) (membersOf (lower.text? name))
      (membersOf (merged.text? name)) ns) ∧
    ∀ p ∈ membersOf (merged.text? name), ∃ e ∈ groups name [upper, middle, lower], ∃ q ∈ e, q.1 = p.1 := by
  rw [h.stacked name hname]
  exact ⟨stacked_membersOf hupper (h.upper_distinct name) hboth (h.middle_distinct name) _,
    fun p hp => keys_membersOf_layered hupper hboth hp⟩

theorem forall_mem_groups {P : Entries → Prop} (h : ∀ e ∈ [upper, middle, lower], P (membersOf (e.text? name))) :
    ∀ g ∈ groups name [upper, middle, lower], P g := by
  intro g hg
  obtain ⟨e, he, rfl⟩ := List.mem_map.mp hg
  exact h e he

/-- A record that can be read in every source: its group is given as a mapping or not at all, also after the sources are
merged, and it can be read from the members of each source. -/
theorem Layers.record {α : Type} {standard : α} {ofEntries : Entries → Checked α} {model : String}
    (h : Layers root upper middle lower merged) (hname : name ∈ names) (hempty : ofEntries [] = .ok standard)
    (hsources : ∀ e ∈ [upper, middle, lower], ∃ a, Field.Name.read ⟨name, none⟩ e
      (fun v => (Field.mapping model v).andThen ofEntries) standard = .ok a) :
    IsGroup (merged.text? name) ∧
    (∀ ns, Stacked (membersOf (upper.text? name)) (membersOf (middle.text? name)) (membersOf (lower.text? name))
      (membersOf (merged.text? name)) ns) ∧
    (∀ p ∈ membersOf (merged.text? name), ∃ e ∈ groups name [upper, middle, lower], ∃ q ∈ e, q.1 = p.1) ∧
    ∀ g ∈ groups name [upper, middle, lower], ∃ a, ofEntries g = .ok a := by
  have hread : ∀ e ∈ [upper, middle, lower], IsGroup (e.text? name) ∧
      ∃ a, ofEntries (membersOf (e.text? name)) = .ok a := by
    intro e he
    obtain ⟨a, ha⟩ := hsources e he
    obtain ⟨hgroup, hmembers⟩ := (read_record_iff hempty).mp ha
    exact ⟨hgroup, a, hmembers⟩
  have hupper := (hread upper (by simp)).1
  have hboth := hupper.layered (hread middle (by simp)).1
  obtain ⟨hstacked, hkeys⟩ := h.members hname hupper hboth
  refine ⟨?_, hstacked, hkeys, forall_mem_groups fun e he => (hread e he).2⟩
  rw [h.stacked name hname]
  exact hboth.layered (hread lower (by simp)).1

theorem Layers.read_weights (h : Layers root upper middle lower merged) :
    ∀ e ∈ [upper, middle, lower], ∃ w, Field.Name.read ⟨"weights", none⟩ e Weights.ofValue {} = .ok w := by
  intro e he
  obtain ⟨s, hs⟩ := h.valid e he
  obtain ⟨-, -, -, -, hweights, -⟩ := ofEntries_eq_ok_iff.mp hs
  exact ⟨_, hweights⟩

theorem Layers.weights (h : Layers root upper middle lower merged) (halike : WeightsAlike [upper, middle, lower]) :
    ∃ w, Field.Name.read ⟨"weights", none⟩ merged Weights.ofValue {} = .ok w ∧
      ∀ f ∈ w.fields, f.1.Effective (groups "weights" [upper, middle, lower]) Weights.reader f.2.1 f.2.2 := by
  obtain ⟨hgroup, hstacked, hkeys, hread⟩ := h.record (by decide) Weights.ofEntries_nil h.read_weights
  obtain ⟨w, hw, hfrom⟩ := Weights.stacked hstacked hkeys halike hread
  exact ⟨w, (read_record_iff Weights.ofEntries_nil).mpr ⟨hgroup, hw⟩, hfrom⟩

/-- Sources that give settings together write weights alike. -/
theorem Layers.weightsAlike (h : Layers root upper middle lower merged) {s : Settings}
    (hs : ofEntries root merged = .ok s) : WeightsAlike [upper, middle, lower] := by
  intro n hn
  obtain ⟨-, -, -, -, hweights, -⟩ := ofEntries_eq_ok_iff.mp hs
  obtain ⟨-, hread⟩ := (read_record_iff Weights.ofEntries_nil).mp hweights
  obtain ⟨-, hstacked, -⟩ := h.record (by decide) Weights.ofEntries_nil h.read_weights
  exact Stacked.alike (fun m _ => hstacked m.spellings) Weights.names_apart (Weights.ofEntries_eq_ok_iff.mp hread).2 hn

theorem Layers.report (h : Layers root upper middle lower merged) :
    ∃ r, Field.Name.read ⟨"report", none⟩ merged ReportSettings.ofValue {} = .ok r ∧
      Field.Name.Effective ⟨"json_path", some "json"⟩ (groups "report" [upper, middle, lower])
        (Field.optional Field.text) ({} : ReportSettings).json r.json ∧
      Field.Name.Effective ⟨"markdown_path", some "markdown"⟩ (groups "report" [upper, middle, lower])
        (Field.optional Field.text) ({} : ReportSettings).markdown r.markdown ∧
      Field.Name.Effective ⟨"markdown_style", none⟩ (groups "report" [upper, middle, lower]) MarkdownStyle.ofValue
        ({} : ReportSettings).style r.style := by
  have hsources : ∀ e ∈ [upper, middle, lower], ∃ r,
      Field.Name.read ⟨"report", none⟩ e ReportSettings.ofValue {} = .ok r := by
    intro e he
    obtain ⟨s, hs⟩ := h.valid e he
    obtain ⟨-, -, -, -, -, -, -, hreport⟩ := ofEntries_eq_ok_iff.mp hs
    exact ⟨_, hreport⟩
  obtain ⟨hgroup, hstacked, -, hread⟩ := h.record (by decide) ReportSettings.ofEntries_nil hsources
  obtain ⟨r, hr, hfrom⟩ := ReportSettings.stacked hstacked hread
  exact ⟨r, (read_record_iff ReportSettings.ofEntries_nil).mpr ⟨hgroup, hr⟩, hfrom⟩

theorem Layers.thresholds (h : Layers root upper middle lower merged) :
    ∃ t, Field.Name.read ⟨"thresholds", none⟩ merged (Field.optional Thresholds.ofValue) (some {}) = .ok t ∧
      ThresholdsFrom [upper, middle, lower] t := by
  have hsources : ∀ e ∈ [upper, middle, lower],
      (e.text? "thresholds" = some .null ∨ IsGroup (e.text? "thresholds")) ∧
        ∃ t, Thresholds.ofEntries (membersOf (e.text? "thresholds")) = .ok t := by
    intro e he
    obtain ⟨s, hs⟩ := h.valid e he
    obtain ⟨-, -, -, -, -, -, hthresholds, -⟩ := ofEntries_eq_ok_iff.mp hs
    rcases (read_optional_record_iff Thresholds.ofEntries_nil).mp hthresholds with ⟨hnull, -⟩ | ⟨hgroup, t, -, ht⟩
    · refine ⟨.inl hnull, {}, ?_⟩
      rw [hnull]
      exact Thresholds.ofEntries_nil
    · exact ⟨.inr hgroup, t, ht⟩
  have hfirst := findSome?_three (·.text? "thresholds") upper middle lower
  have hname : "thresholds" ∈ names := by decide
  -- The first value that is given decides. Under a mapping, a null is as good as no value.
  rcases layered_eq_null_or (hsources upper (by simp)).1 (hsources middle (by simp)).1 (hsources lower (by simp)).1 with
    ⟨hnull, hmerged⟩ | ⟨hgiven, hupper, hboth, hall⟩
  · rw [← h.stacked _ hname] at hmerged
    exact ⟨none, (read_optional_record_iff Thresholds.ofEntries_nil).mpr (.inl ⟨hmerged, rfl⟩), hfirst.trans hnull⟩
  · obtain ⟨hstacked, hkeys⟩ := h.members hname hupper hboth
    obtain ⟨t, ht, hfrom⟩ := Thresholds.stacked hstacked hkeys (forall_mem_groups fun e he => (hsources e he).2)
    rw [← h.stacked _ hname] at hall
    refine ⟨some t, (read_optional_record_iff Thresholds.ofEntries_nil).mpr (.inr ⟨hall, t, rfl, ht⟩), ?_, hfrom⟩
    rw [hfirst]
    exact hgiven

/-- Sources that can be used on their own and write weights alike give settings together. -/
theorem Layers.settings (h : Layers root upper middle lower merged)
    (halike : WeightsAlike [upper, middle, lower]) :
    ∃ s, ofEntries root merged = .ok s ∧ s.root = root ∧ FromSources [upper, middle, lower] s := by
  have hfields := fun e he => ofEntries_eq_ok_iff.mp (h.valid e he).choose_spec
  have htruth : ∀ g a, Field.truth (.map g) ≠ .ok a := fun g a h => nomatch h
  have htexts : ∀ g a, Field.texts (.map g) ≠ .ok a := fun g a h => nomatch h
  have hpositive : ∀ g a, Field.positive (.map g) ≠ .ok a := fun g a h => nomatch h
  obtain ⟨debug, hdebug, hdebugFrom⟩ :=
    h.plain (by decide : "debug" ∈ names) htruth fun e he => ⟨_, (hfields e he).2.1⟩
  obtain ⟨included, hincluded, hincludedFrom⟩ :=
    h.plain (by decide : "include" ∈ names) htexts fun e he => ⟨_, (hfields e he).2.2.1⟩
  obtain ⟨excluded, hexcluded, hexcludedFrom⟩ :=
    h.plain (by decide : "exclude" ∈ names) htexts fun e he => ⟨_, (hfields e he).2.2.2.1⟩
  obtain ⟨alpha, halpha, halphaFrom⟩ :=
    h.plain (by decide : "alpha" ∈ names) hpositive fun e he => ⟨_, (hfields e he).2.2.2.2.2.1⟩
  obtain ⟨weights, hweights, hweightsFrom⟩ := h.weights halike
  obtain ⟨thresholds, hthresholds, hthresholdsFrom⟩ := h.thresholds
  obtain ⟨report, hreport, hjson, hmarkdown, hstyle⟩ := h.report
  refine ⟨⟨debug, root, included, excluded, weights, alpha, thresholds, report⟩, ofEntries_eq_ok_iff.mpr
    ⟨rfl, hdebug, hincluded, hexcluded, hweights, halpha, hthresholds, hreport⟩, rfl, ?_⟩
  exact ⟨hdebugFrom, hincludedFrom, hexcludedFrom, halphaFrom, hweightsFrom, hthresholdsFrom, hjson, hmarkdown, hstyle⟩

end Layers

section Names

theorem text?_filterMap {names : List String} (hnodup : names.Nodup) (f : String → Option Value) (name : String) :
    Entries.text? name (names.filterMap fun n => (f n).map fun v => (.text n, v)) =
      if name ∈ names then f name else none := by
  induction names with
  | nil => rfl
  | cons n rest ih =>
    obtain ⟨hnew, hrest⟩ := List.nodup_cons.mp hnodup
    rw [List.filterMap_cons]
    cases hn : f n with
    | none =>
      rw [Option.map_none, ih hrest]
      by_cases hname : name = n
      · simp [hname, hnew, hn]
      · simp [hname]
    | some v =>
      rw [Option.map_some, Entries.text?, Entries.get?]
      by_cases hname : name = n
      · simp [hname, hn, Value.sameKey_text]
      · have hother : ¬(Value.text n).sameKey (.text name) = true := fun h =>
          hname (Value.text.inj (Value.sameKey_text.mp h)).symm
        rw [if_neg hother]
        simpa [hname, Entries.text?] using ih hrest

/-- The settings that a source gives, each under its own name. -/
theorem text?_known {name : String} (h : name ∈ names) (entries : Entries) :
    (known entries).text? name = anyCase? name entries := by
  unfold known
  rw [text?_filterMap (by decide), if_pos h]

theorem text?_known_of_not_mem {name : String} (h : name ∉ names) (entries : Entries) :
    (known entries).text? name = none := by
  unfold known
  rw [text?_filterMap (by decide), if_neg h]

theorem distinct_known (entries : Entries) : (known entries).Distinct := by
  have hnodup : names.Nodup := by decide
  unfold known Entries.Distinct
  rw [List.pairwise_filterMap]
  refine hnodup.imp fun {m n} hne p hp q hq => ?_
  obtain ⟨v, -, rfl⟩ := Option.map_eq_some_iff.mp hp
  obtain ⟨w, -, rfl⟩ := Option.map_eq_some_iff.mp hq
  exact Bool.eq_false_iff.mpr fun h => hne (Value.text.inj (Value.sameKey_text.mp h))

/-- Under any case of letters a source gives what it gives under the one spelling that it uses. -/
theorem anyCase?_eq_text? {name spelling : String} {entries : Entries} (hname : lowerText name = name)
    (hspelling : lowerText spelling = name)
    (hall : ∀ s v, (.text s, v) ∈ entries → lowerText s = name → s = spelling) :
    anyCase? name entries = entries.text? spelling := by
  unfold anyCase?
  cases hexact : entries.text? name with
  | some v =>
    rw [← hall name v (Entries.mem_of_text? hexact) hname, hexact]
  | none =>
    rw [Entries.text?, Entries.get?_eq_find?]
    refine congrArg (Option.map Prod.snd) (List.find?_congr fun p hp => ?_)
    obtain ⟨key, v⟩ := p
    cases key with
    | text s =>
      by_cases hs : lowerText s = name
      · have hsame := hall s v hp hs
        simp [hsame, hspelling, Value.sameKey]
      · have hother : s ≠ spelling := fun hsame => hs (hsame ▸ hspelling)
        simp [hs, hother, Value.sameKey]
    | _ => simp [Value.sameKey, Value.whole?]

/-- The mapping can be used on its own: its keys are texts, no key comes twice in it or in one of its groups, and what it
gives makes settings. -/
structure Usable (root : String) (entries : Entries) : Prop where
  texts : ∀ p ∈ entries, isText p.1 = true
  distinct : entries.Distinct
  members : ∀ p ∈ entries, (membersOf (some p.2)).Distinct
  valid : ∃ s, ofEntries root (known entries) = .ok s

instance {α : Type} (x : Checked α) : Decidable (∃ a, x = .ok a) :=
  match x with
  | .ok a => isTrue ⟨a, rfl⟩
  | .bad _ => isFalse fun h => h.elim fun _ h => nomatch h

instance (root : String) (entries : Entries) : Decidable (Usable root entries) :=
  decidable_of_iff ((∀ p ∈ entries, isText p.1 = true) ∧ entries.Distinct ∧
      (∀ p ∈ entries, (membersOf (some p.2)).Distinct) ∧ ∃ s, ofEntries root (known entries) = .ok s)
    ⟨fun ⟨texts, distinct, members, valid⟩ => ⟨texts, distinct, members, valid⟩,
      fun ⟨texts, distinct, members, valid⟩ => ⟨texts, distinct, members, valid⟩⟩

/-- Two keys name one setting, in any case of letters. -/
def sameSetting : Value → Value → Bool
  | .text s, .text t => lowerText s == lowerText t && names.contains (lowerText s)
  | _, _ => false

/-- No setting is given under two names that differ in case only. -/
def SameCase (upper middle : Entries) : Prop :=
  ∀ p ∈ upper ++ middle, ∀ q ∈ upper ++ middle, sameSetting p.1 q.1 = true → p.1.sameKey q.1 = true

instance (upper middle : Entries) : Decidable (SameCase upper middle) :=
  inferInstanceAs (Decidable (∀ p ∈ upper ++ middle, ∀ q ∈ upper ++ middle, _))

theorem SameCase.eq {upper middle : Entries} (h : SameCase upper middle) {s t : String} {v w : Value}
    (hs : (.text s, v) ∈ upper ++ middle) (ht : (.text t, w) ∈ upper ++ middle) (hlower : lowerText s = lowerText t)
    (hname : lowerText s ∈ names) : s = t := by
  have hsame : sameSetting (.text s) (.text t) = true := by
    rw [hlower] at hname
    simp [sameSetting, hlower, hname]
  exact Value.text.inj (Value.sameKey_text.mp (h _ hs _ ht hsame))

theorem mem_of_anyCase? {name : String} {entries : Entries} {v : Value} (h : anyCase? name entries = some v) :
    ∃ p ∈ entries, p.2 = v := by
  unfold anyCase? at h
  split at h
  · rename_i w hw
    cases h
    exact ⟨_, Entries.mem_of_text? hw, rfl⟩
  · obtain ⟨p, hp, rfl⟩ := Option.map_eq_some_iff.mp h
    exact ⟨p, List.mem_of_find?_eq_some hp, rfl⟩

theorem Usable.distinct_members {root : String} {entries : Entries} (h : Usable root entries) (name : String) :
    (membersOf ((known entries).text? name)).Distinct := by
  by_cases hname : name ∈ names
  · rw [text?_known hname]
    cases hv : anyCase? name entries with
    | none => exact .nil
    | some v =>
      obtain ⟨p, hp, rfl⟩ := mem_of_anyCase? hv
      exact h.members p hp
  · rw [text?_known_of_not_mem hname]
    exact .nil

/-- What is given directly and the configuration file are put over each other, setting by setting. -/
theorem anyCase?_merge {upper middle : Entries} (hdistinct : upper.Distinct) (hcase : SameCase upper middle)
    {name : String} (hname : name ∈ names) :
    anyCase? name (middle.merge upper) = layered (anyCase? name upper) (anyCase? name middle) := by
  have hlower : lowerText name = name := by
    have hall : ∀ name ∈ names, lowerText name = name := by decide
    exact hall name hname
  -- If a source gives the setting, there is one spelling of its name that is used; else any will do.
  obtain ⟨spelling, hspelling, hall⟩ : ∃ spelling, lowerText spelling = name ∧
      ∀ s v, (.text s, v) ∈ upper ++ middle → lowerText s = name → s = spelling := by
    by_cases hgiven : ∃ s v, (Value.text s, v) ∈ upper ++ middle ∧ lowerText s = name
    · obtain ⟨s, v, hs, hsname⟩ := hgiven
      exact ⟨s, hsname, fun t w ht htname => hcase.eq ht hs (htname.trans hsname.symm) (htname ▸ hname)⟩
    · exact ⟨name, hlower, fun s v hs hsname => absurd ⟨s, v, hs, hsname⟩ hgiven⟩
  have hmerged : ∀ s v, (.text s, v) ∈ middle.merge upper → lowerText s = name → s = spelling := by
    intro s v hs hsname
    obtain ⟨q, hq, hkey⟩ := Entries.exists_of_mem_merge hs
    refine hall s q.2 ?_ hsname
    rw [← show q.1 = .text s from hkey]
    exact hq
  rw [anyCase?_eq_text? hlower hspelling hmerged, Entries.text?_merge hdistinct,
    anyCase?_eq_text? hlower hspelling fun s v hs => hall s v (List.mem_append_left _ hs),
    anyCase?_eq_text? hlower hspelling fun s v hs => hall s v (List.mem_append_right _ hs)]

def fileEntries (files : Files) (path : Option String) (readers : Readers := {}) : Except SettingsError Entries :=
  match path with
  | some path => Config.load files path readers
  | none => .ok []

theorem layers {root : String} {upper middle lower : Entries} (hupper : Usable root upper) (hmiddle : Usable root middle)
    (hlower : ∃ s, ofEntries root lower = .ok s) (hcase : SameCase upper middle) :
    Layers root (known upper) (known middle) lower (lower.merge (known (middle.merge upper))) := by
  refine ⟨fun name hname => ?_, ?_, hupper.distinct_members, hmiddle.distinct_members⟩
  · rw [Entries.text?_merge (distinct_known _), text?_known hname, text?_known hname, text?_known hname,
      anyCase?_merge hupper.distinct hcase hname]
  · simpa using ⟨hupper.valid, hmiddle.valid, hlower⟩

/-- The answer to a request whose settings were checked. -/
def answer (path : Option String) : Checked Settings → Except SettingsError Settings
  | .ok s => .ok s
  | .bad problems => .error (.config (.invalid path problems))

theorem outcome?_standard (given : Entries) : Readers.outcome? {} given = none :=
  ite_self none

theorem load_eq {files : Files} {env : Environment} {r : Request} {path : Option String} {file lower : Entries}
    {readers : Readers} (hpath : r.configFile files env = .ok path) (hfile : fileEntries files path readers = .ok file)
    (hlower : ofVariables env = .ok lower) (htexts : ∀ p ∈ file.merge r.overrides, isText p.1 = true)
    (houtcome : readers.outcome? (file.merge r.overrides) = none) :
    load files env r readers =
      answer path (ofEntries (r.rootPath files env) (lower.merge (known (file.merge r.overrides)))) := by
  have hall : ((file.merge r.overrides).any fun p => !isText p.1) = false := by
    rw [List.any_eq_false]
    intro p hp
    simp [htexts p hp]
  unfold load
  simp only [hpath, hlower, Except.mapError, bind, Except.bind]
  cases path with
  | none =>
    cases hfile
    simp only [pure, Except.pure, hall, houtcome]
    cases ofEntries (r.rootPath files env) (lower.merge (known (Entries.merge [] r.overrides))) with
    | ok s => rfl
    | bad problems => rfl
  | some p =>
    have hload : Config.load files p readers = .ok file := hfile
    simp only [hload, hall, houtcome]
    cases ofEntries (r.rootPath files env) (lower.merge (known (file.merge r.overrides))) with
    | ok s => rfl
    | bad problems => rfl

end Names

/-- Sources that can each be used on their own and that write the names of weights alike give settings together. Every
single one comes from the first source that gives it, if the sources write its name alike, and else from the first that
gives it under its short name. Sources that write weights differently are refused. -/
theorem settings_from_sources {files : Files} {env : Environment} {r : Request} {path : Option String}
    {file lower : Entries} (hpath : r.configFile files env = .ok path) (hfile : fileEntries files path = .ok file)
    (hlower : ofVariables env = .ok lower) (hoverrides : Usable (r.rootPath files env) r.overrides)
    (hused : Usable (r.rootPath files env) file) (hvalid : ∃ s, ofEntries (r.rootPath files env) lower = .ok s)
    (hcase : SameCase r.overrides file) :
    (WeightsAlike [known r.overrides, known file, lower] →
      ∃ s, load files env r = .ok s ∧ s.root = r.rootPath files env ∧
        FromSources [known r.overrides, known file, lower] s) ∧
    (¬WeightsAlike [known r.overrides, known file, lower] →
      ∃ problems, load files env r = .error (.config (.invalid path problems))) := by
  have htexts : ∀ p ∈ file.merge r.overrides, isText p.1 = true := by
    intro p hp
    obtain ⟨q, hq, hkey⟩ := Entries.exists_of_mem_merge hp
    rw [← hkey]
    exact (List.mem_append.mp hq).elim (hoverrides.texts q) (hused.texts q)
  have hlayers := layers hoverrides hused hvalid hcase
  rw [load_eq hpath hfile hlower htexts (outcome?_standard _)]
  constructor
  · intro halike
    obtain ⟨s, hs, hroot, hfrom⟩ := hlayers.settings halike
    rw [hs]
    exact ⟨s, rfl, hroot, hfrom⟩
  · intro hmixed
    cases hs : ofEntries (r.rootPath files env) (lower.merge (known (file.merge r.overrides))) with
    | ok s => exact absurd (hlayers.weightsAlike hs) hmixed
    | bad problems => exact ⟨problems, rfl⟩

section Configurations

theorem eq_ok_getD {ε α : Type} {x : Except ε α} (h : x.toOption.isSome = true) (a : α) :
    x = .ok (x.toOption.getD a) := by
  cases x with
  | ok b => rfl
  | error e => cases h

def configured (content : String) : Files where
  top := [("sphere.config.json", .file content.toUTF8.toList)]

def configuredEntries (content : String) : Entries :=
  (fileEntries (configured content) (some "/sphere.config.json")).toOption.getD []

def layeredConfig : String := "\x7b\"weights\":\x7b\"internalCall\":4\x7d,\"thresholds\":null\x7d"

def layeredEnvironment : Environment := [("SPHERE_DEBUG", "yes"), ("SPHERE_WEIGHTS", "\x7b\"internalCall\":6\x7d")]

def layeredRequest : Request where
  overrides := [(.text "weights", .map [(.text "privateMethod", .int 7)]),
    (.text "thresholds", .map [(.text "good", .int 20)])]

theorem settings_from_sources_layered :
    ∃ s, load (configured layeredConfig) layeredEnvironment layeredRequest = .ok s ∧ s.root = "/" ∧
      FromSources [known layeredRequest.overrides, known (configuredEntries layeredConfig),
        (ofVariables layeredEnvironment).toOption.getD []] s := by
  have hpath : layeredRequest.configFile (configured layeredConfig) layeredEnvironment =
      .ok (some "/sphere.config.json") :=
    (eq_ok_getD (by decide +kernel) none).trans (congrArg Except.ok (by decide +kernel))
  have hroot : layeredRequest.rootPath (configured layeredConfig) layeredEnvironment = "/" := by decide +kernel
  have hoverrides : Usable "/" layeredRequest.overrides := by decide +kernel
  have hfile : Usable "/" (configuredEntries layeredConfig) := by decide +kernel
  rw [← hroot] at hoverrides hfile ⊢
  exact (settings_from_sources hpath (eq_ok_getD (by decide +kernel) []) (eq_ok_getD (by decide +kernel) []) hoverrides
    hfile (by decide +kernel) (by decide +kernel)).1 (by decide +kernel)

def namedConfig : String := "\x7b\"report\":\x7b\"json\":\"file.json\"\x7d\x7d"

def namedRequest : Request where
  overrides := [(.text "report", .map [(.text "json_path", .text "override.json")])]

def weighedConfig : String := "\x7b\"weights\":\x7b\"private_method\":2\x7d\x7d"

def weighedRequest : Request where
  overrides := [(.text "weights", .map [(.text "privateMethod", .int 3)])]

/-- Two sources that can be used and write one setting under its two names: the file is heard for the path of a report, and
for weights both are refused. -/
theorem mixed_names_lose_order :
    (Usable "/" namedRequest.overrides ∧ Usable "/" (configuredEntries namedConfig) ∧
      (load (configured namedConfig) [] namedRequest).toOption.map (·.report.json) = some (some "file.json")) ∧
    (Usable "/" weighedRequest.overrides ∧ Usable "/" (configuredEntries weighedConfig) ∧
      (load (configured weighedConfig) [] weighedRequest).toOption.isNone) := by
  decide +kernel

end Configurations

end Settings

end CorpusShape
