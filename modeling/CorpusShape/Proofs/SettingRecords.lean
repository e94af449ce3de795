import CorpusShape.Proofs.Scores
import CorpusShape.Proofs.StackedFields

/-!
# Records that are read from several sources

A record of settings is read exactly if each of its fields is, and, where it takes no unknown names, all names are known.
If every source can be read on its own, so can the sources put over each other, and each field comes from the first
source that gives it, under the name that goes first. For weights the sources also have to write their names alike.
-/
namespace CorpusShape

section Records
variable {α : Type} {standard a : α} {ofEntries : Entries → Checked α} {entries : Entries} {name model : String}

/-- A record is read from the members of its group; a group that is not given has none. -/
theorem read_record_iff (hempty : ofEntries [] = .ok standard) :
    (Field.Name.mk name none).read entries (fun v => (Field.mapping model v).andThen ofEntries) standard = .ok a ↔
      IsGroup (entries.text? name) ∧ ofEntries (membersOf (entries.text? name)) = .ok a := by
  rw [Field.Name.read_eq_ok_iff, Field.Name.value?_single rfl]
  cases entries.text? name with
  | none => simp [Field.Name.ReadAs, IsGroup, membersOf, hempty, eq_comm]
  | some v =>
    cases v with
    | map g => simp [Field.Name.ReadAs, IsGroup, membersOf, Field.mapping, Checked.andThen]
    | _ => simp [Field.Name.ReadAs, IsGroup, Field.mapping, Checked.andThen, Checked.one]

/-- A record that may be null is none then, and else it is read. -/
theorem read_optional_record_iff (hempty : ofEntries [] = .ok standard) {r : Option α} :
    (Field.Name.mk name none).read entries (Field.optional fun v => (Field.mapping model v).andThen ofEntries)
        (some standard) = .ok r ↔
      (entries.text? name = some .null ∧ r = none) ∨
        (IsGroup (entries.text? name) ∧ ∃ a, r = some a ∧ ofEntries (membersOf (entries.text? name)) = .ok a) := by
  rw [Field.Name.read_eq_ok_iff, Field.Name.value?_single rfl]
  cases entries.text? name with
  | none => simp [Field.Name.ReadAs, IsGroup, membersOf, hempty]
  | some v =>
    cases v with
    | null => simp [Field.Name.ReadAs, IsGroup, Field.optional, eq_comm]
    | map g =>
      cases h : ofEntries g with
      | ok a =>
        simp [Field.Name.ReadAs, IsGroup, membersOf, Field.optional, Field.mapping, Checked.andThen, Checked.map, h,
          eq_comm]
      | bad problems =>
        simp [Field.Name.ReadAs, IsGroup, membersOf, Field.optional, Field.mapping, Checked.andThen, Checked.map, h]
    | _ => simp [Field.Name.ReadAs, IsGroup, Field.optional, Field.mapping, Checked.andThen, Checked.one, Checked.map]

end Records

namespace Weights

def reader (v : Value) : Checked Amount := (Field.positive v).map .float

def fields (w : Weights) : List (Field.Name × Amount × Amount) :=
  names.zip ((({} : Weights).toList.map (·.2)).zip (w.toList.map (·.2)))

theorem forall_mem_fields {w : Weights} {P : Field.Name × Amount × Amount → Prop} :
    (∀ f ∈ w.fields, P f) ↔
      P (⟨"private_method", some "privateMethod"⟩, .int 1, w.privateMethod) ∧
      P (⟨"internal_call", some "internalCall"⟩, .int 1, w.internalCall) ∧
      P (⟨"internal_type", some "internalType"⟩, .int 2, w.internalType) ∧
      P (⟨"exported_symbol", some "exportedSymbol"⟩, .int 3, w.exportedSymbol) ∧
      P (⟨"public_method", some "publicMethod"⟩, .int 2, w.publicMethod) ∧
      P (⟨"external_import", some "externalImport"⟩, .int 2, w.externalImport) ∧
      P (⟨"outgoing_call", some "outgoingCall"⟩, .int 2, w.outgoingCall) := by
  simp [fields, names, toList]

/-- Weights are found one by one. -/
theorem exists_fields {Q : Field.Name → Amount → Amount → Prop}
    (h : ∀ f ∈ ({} : Weights).fields, ∃ a, Q f.1 f.2.1 a) : ∃ w : Weights, ∀ f ∈ w.fields, Q f.1 f.2.1 f.2.2 := by
  obtain ⟨⟨a, ha⟩, ⟨b, hb⟩, ⟨c, hc⟩, ⟨d, hd⟩, ⟨e, he⟩, ⟨f, hf⟩, ⟨g, hg⟩⟩ := forall_mem_fields.mp h
  exact ⟨⟨a, b, c, d, e, f, g⟩, forall_mem_fields.mpr ⟨ha, hb, hc, hd, he, hf, hg⟩⟩

theorem exists_of_fields {w : Weights} {Q : Field.Name → Amount → Amount → Prop}
    (h : ∀ f ∈ w.fields, Q f.1 f.2.1 f.2.2) : ∀ f ∈ ({} : Weights).fields, ∃ a, Q f.1 f.2.1 a := by
  obtain ⟨ha, hb, hc, hd, he, hf, hg⟩ := forall_mem_fields.mp h
  exact forall_mem_fields.mpr ⟨⟨_, ha⟩, ⟨_, hb⟩, ⟨_, hc⟩, ⟨_, hd⟩, ⟨_, he⟩, ⟨_, hf⟩, ⟨_, hg⟩⟩

theorem ofEntries_eq_ok_iff {entries : Entries} {w : Weights} :
    ofEntries entries = .ok w ↔
      (∀ f ∈ w.fields, f.1.read entries reader f.2.1 = .ok f.2.2) ∧ Field.unknown names entries = .ok () := by
  rw [forall_mem_fields]
  constructor
  · intro h
    obtain ⟨p7, u, h7, hunknown, hw⟩ := Checked.seq_eq_ok h
    obtain ⟨p6, x7, h6, hx7, hp7⟩ := Checked.seq_eq_ok h7
    obtain ⟨p5, x6, h5, hx6, hp6⟩ := Checked.seq_eq_ok h6
    obtain ⟨p4, x5, h4, hx5, hp5⟩ := Checked.seq_eq_ok h5
    obtain ⟨p3, x4, h3, hx4, hp4⟩ := Checked.seq_eq_ok h4
    obtain ⟨p2, x3, h2, hx3, hp3⟩ := Checked.seq_eq_ok h3
    obtain ⟨p1, x2, h1, hx2, hp2⟩ := Checked.seq_eq_ok h2
    obtain ⟨x1, hx1, hp1⟩ := Checked.map_eq_ok h1
    subst hp1 hp2 hp3 hp4 hp5 hp6 hp7 hw
    exact ⟨⟨hx1, hx2, hx3, hx4, hx5, hx6, hx7⟩, hunknown⟩
  · rintro ⟨⟨h1, h2, h3, h4, h5, h6, h7⟩, hunknown⟩
    delta reader at h1 h2 h3 h4 h5 h6 h7
    unfold ofEntries
    dsimp only at h1 h2 h3 h4 h5 h6 h7 ⊢
    rw [h1, h2, h3, h4, h5, h6, h7, hunknown]
    rfl

theorem ofEntries_nil : ofEntries [] = .ok {} := rfl

theorem names_apart : Field.Apart names := by
  unfold Field.Apart
  decide

/-- Sources whose weights can be read, and that write them alike, have weights together: those of the first source that
gives each. -/
theorem stacked {upper middle lower merged : Entries} (h : ∀ ns, Stacked upper middle lower merged ns)
    (hkeys : ∀ p ∈ merged, ∃ e ∈ [upper, middle, lower], ∃ q ∈ e, q.1 = p.1)
    (halike : ∀ n ∈ names, n.Alike [upper, middle, lower])
    (hsources : ∀ e ∈ [upper, middle, lower], ∃ w, ofEntries e = .ok w) :
    ∃ w, ofEntries merged = .ok w ∧ ∀ f ∈ w.fields, f.1.Effective [upper, middle, lower] reader f.2.1 f.2.2 := by
  have hmap : ∀ g a, reader (.map g) ≠ .ok a := fun g a h => nomatch h
  have hread : ∀ f ∈ ({} : Weights).fields, ∃ a, f.1.read merged reader f.2.1 = .ok a ∧
      f.1.Effective [upper, middle, lower] reader f.2.1 a := by
    intro f hf
    refine (h f.1.spellings).read hmap fun e he => ?_
    obtain ⟨w, hw⟩ := hsources e he
    exact exists_of_fields (Q := fun n standard a => n.read e reader standard = .ok a) (ofEntries_eq_ok_iff.mp hw).1 f hf
  obtain ⟨w, hw⟩ := exists_fields (Q := fun n standard a => n.read merged reader standard = .ok a ∧
    n.Effective [upper, middle, lower] reader standard a) hread
  have hunknown : Field.unknown names merged = .ok () := by
    refine Stacked.unknown (fun n _ => h n.spellings) hkeys halike fun e he => ?_
    obtain ⟨v, hv⟩ := hsources e he
    exact (ofEntries_eq_ok_iff.mp hv).2
  exact ⟨w, ofEntries_eq_ok_iff.mpr ⟨fun f hf => (hw f hf).1, hunknown⟩, fun f hf => (hw f hf).2⟩

end Weights

namespace Thresholds

theorem ofEntries_eq_ok_iff {entries : Entries} {t : Thresholds} :
    ofEntries entries = .ok t ↔
      Field.Name.read ⟨"good", none⟩ entries Field.number ({} : Thresholds).good = .ok t.good ∧
      Field.Name.read ⟨"warning", none⟩ entries Field.number ({} : Thresholds).warning = .ok t.warning ∧
      Field.unknown names entries = .ok () := by
  constructor
  · intro h
    obtain ⟨p2, u, h2, hunknown, ht⟩ := Checked.seq_eq_ok h
    obtain ⟨p1, x2, h1, hx2, hp2⟩ := Checked.seq_eq_ok h2
    obtain ⟨x1, hx1, hp1⟩ := Checked.map_eq_ok h1
    subst hp1 hp2 ht
    exact ⟨hx1, hx2, hunknown⟩
  · rintro ⟨h1, h2, hunknown⟩
    unfold ofEntries
    dsimp only
    rw [h1, h2, hunknown]
    rfl

theorem ofEntries_nil : ofEntries [] = .ok {} := rfl

theorem stacked {upper middle lower merged : Entries} (h : ∀ ns, Stacked upper middle lower merged ns)
    (hkeys : ∀ p ∈ merged, ∃ e ∈ [upper, middle, lower], ∃ q ∈ e, q.1 = p.1)
    (hsources : ∀ e ∈ [upper, middle, lower], ∃ t, ofEntries e = .ok t) :
    ∃ t, ofEntries merged = .ok t ∧
      Field.Name.Effective ⟨"good", none⟩ [upper, middle, lower] Field.number ({} : Thresholds).good t.good ∧
      Field.Name.Effective ⟨"warning", none⟩ [upper, middle, lower] Field.number ({} : Thresholds).warning t.warning := by
  have hmap : ∀ g a, Field.number (.map g) ≠ .ok a := fun g a h => nomatch h
  have hfields := fun e he => ofEntries_eq_ok_iff.mp (hsources e he).choose_spec
  obtain ⟨good, hgood, hgoodFrom⟩ := (h _).read hmap fun e he => ⟨_, (hfields e he).1⟩
  obtain ⟨warning, hwarning, hwarningFrom⟩ := (h _).read hmap fun e he => ⟨_, (hfields e he).2.1⟩
  have halike : ∀ n ∈ names, n.Alike [upper, middle, lower] := by
    intro n hn s hs
    simp only [names, List.mem_cons, List.not_mem_nil, or_false] at hn
    rcases hn with rfl | rfl <;> cases hs
  have hunknown := Stacked.unknown (fun n _ => h n.spellings) hkeys halike fun e he => (hfields e he).2.2
  exact ⟨⟨good, warning⟩, ofEntries_eq_ok_iff.mpr ⟨hgood, hwarning, hunknown⟩, hgoodFrom, hwarningFrom⟩

end Thresholds

namespace ReportSettings

theorem ofEntries_eq_ok_iff {entries : Entries} {r : ReportSettings} :
    ofEntries entries = .ok r ↔
      Field.Name.read ⟨"json_path", some "json"⟩ entries (Field.optional Field.text)
        ({} : ReportSettings).json = .ok r.json ∧
      Field.Name.read ⟨"markdown_path", some "markdown"⟩ entries (Field.optional Field.text)
        ({} : ReportSettings).markdown = .ok r.markdown ∧
      Field.Name.read ⟨"markdown_style", none⟩ entries MarkdownStyle.ofValue ({} : ReportSettings).style = .ok r.style := by
  constructor
  · intro h
    obtain ⟨p2, x3, h2, hx3, hr⟩ := Checked.seq_eq_ok h
    obtain ⟨p1, x2, h1, hx2, hp2⟩ := Checked.seq_eq_ok h2
    obtain ⟨x1, hx1, hp1⟩ := Checked.map_eq_ok h1
    subst hp1 hp2 hr
    exact ⟨hx1, hx2, hx3⟩
  · rintro ⟨h1, h2, h3⟩
    unfold ofEntries
    dsimp only
    rw [h1, h2, h3]
    rfl

theorem ofEntries_nil : ofEntries [] = .ok {} := rfl

theorem stacked {upper middle lower merged : Entries} (h : ∀ ns, Stacked upper middle lower merged ns)
    (hsources : ∀ e ∈ [upper, middle, lower], ∃ r, ofEntries e = .ok r) :
    ∃ r, ofEntries merged = .ok r ∧
      Field.Name.Effective ⟨"json_path", some "json"⟩ [upper, middle, lower] (Field.optional Field.text)
        ({} : ReportSettings).json r.json ∧
      Field.Name.Effective ⟨"markdown_path", some "markdown"⟩ [upper, middle, lower] (Field.optional Field.text)
        ({} : ReportSettings).markdown r.markdown ∧
      Field.Name.Effective ⟨"markdown_style", none⟩ [upper, middle, lower] MarkdownStyle.ofValue
        ({} : ReportSettings).style r.style := by
  have hfields := fun e he => ofEntries_eq_ok_iff.mp (hsources e he).choose_spec
  have htext : ∀ g a, Field.optional Field.text (.map g) ≠ .ok a := fun g a h => nomatch h
  obtain ⟨json, hjson, hjsonFrom⟩ := (h _).read htext fun e he => ⟨_, (hfields e he).1⟩
  obtain ⟨markdown, hmarkdown, hmarkdownFrom⟩ := (h _).read htext fun e he => ⟨_, (hfields e he).2.1⟩
  have hword : ∀ g a, MarkdownStyle.ofValue (.map g) ≠ .ok a := by simp [MarkdownStyle.ofValue, Checked.one]
  obtain ⟨style, hstyle, hstyleFrom⟩ := (h _).read hword fun e he => ⟨_, (hfields e he).2.2⟩
  exact ⟨⟨json, markdown, style⟩, ofEntries_eq_ok_iff.mpr ⟨hjson, hmarkdown, hstyle⟩, hjsonFrom, hmarkdownFrom, hstyleFrom⟩

end ReportSettings

namespace Settings

def standard (root : String) : Settings := { root }

theorem ofEntries_eq_ok_iff {root : String} {entries : Entries} {s : Settings} :
    ofEntries root entries = .ok s ↔ s.root = root ∧
      Field.Name.read ⟨"debug", none⟩ entries Field.truth (standard root).debug = .ok s.debug ∧
      Field.Name.read ⟨"include", none⟩ entries Field.texts (standard root).included = .ok s.included ∧
      Field.Name.read ⟨"exclude", none⟩ entries Field.texts (standard root).excluded = .ok s.excluded ∧
      Field.Name.read ⟨"weights", none⟩ entries Weights.ofValue {} = .ok s.weights ∧
      Field.Name.read ⟨"alpha", none⟩ entries Field.positive (standard root).alpha = .ok s.alpha ∧
      Field.Name.read ⟨"thresholds", none⟩ entries (Field.optional Thresholds.ofValue) (some {}) = .ok s.thresholds ∧
      Field.Name.read ⟨"report", none⟩ entries ReportSettings.ofValue {} = .ok s.report := by
  constructor
  · intro h
    obtain ⟨p6, x7, h6, hx7, hs⟩ := Checked.seq_eq_ok h
    obtain ⟨p5, x6, h5, hx6, hp6⟩ := Checked.seq_eq_ok h6
    obtain ⟨p4, x5, h4, hx5, hp5⟩ := Checked.seq_eq_ok h5
    obtain ⟨p3, x4, h3, hx4, hp4⟩ := Checked.seq_eq_ok h4
    obtain ⟨p2, x3, h2, hx3, hp3⟩ := Checked.seq_eq_ok h3
    obtain ⟨p1, x2, h1, hx2, hp2⟩ := Checked.seq_eq_ok h2
    obtain ⟨x1, hx1, hp1⟩ := Checked.map_eq_ok h1
    subst hp1 hp2 hp3 hp4 hp5 hp6 hs
    exact ⟨rfl, hx1, hx2, hx3, hx4, hx5, hx6, hx7⟩
  · rintro ⟨rfl, h1, h2, h3, h4, h5, h6, h7⟩
    unfold standard at h1 h2 h3 h5
    unfold ofEntries
    dsimp only at h1 h2 h3 h4 h5 h6 h7 ⊢
    rw [h1, h2, h3, h4, h5, h6, h7]
    rfl

end Settings

end CorpusShape
