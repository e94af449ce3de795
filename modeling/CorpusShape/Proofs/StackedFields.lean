import CorpusShape.Settings
import CorpusShape.Proofs.Merging

/-!
# Fields that several sources give

Three mappings are put over each other, under the names that they write. A field with two names is then read under its
short name if any of them writes it, and else under its full name, from the first that writes it so. The mappings keep
their order exactly if all that give the field write it alike; only then does a group that takes no unknown names take
the merged one.
-/
namespace CorpusShape

namespace Field.Name
variable {α : Type} {n : Field.Name} {sources : List Entries} {reader : Value → Checked α} {standard a : α}

def value? (n : Field.Name) (entries : Entries) : Option Value := (n.given? entries).bind (entries.text? ·)

def spellings (n : Field.Name) : List String := n.short.toList ++ [n.full]

/-- The value of the first source that gives the field under its short name, or else under its full name. -/
def chosen? (n : Field.Name) (sources : List Entries) : Option Value :=
  (n.short.bind fun s => sources.findSome? (·.text? s)).or (sources.findSome? (·.text? n.full))

/-- The sources that give the field all give it under the same name. -/
def Alike (n : Field.Name) (sources : List Entries) : Prop :=
  ∀ s ∈ n.short, (∀ e ∈ sources, e.text? s = none) ∨ ∀ e ∈ sources, e.text? n.full = none

instance (n : Field.Name) (sources : List Entries) : Decidable (n.Alike sources) :=
  inferInstanceAs (Decidable (∀ s ∈ n.short, _))

/-- The value is read, or it is the standard one if none is given. -/
def ReadAs (reader : Value → Checked α) (standard : α) : Option Value → α → Prop
  | none, a => a = standard
  | some v, a => reader v = .ok a

/-- The value of a field is that of the first source that gives it under its short name, or else under its full name. If
the sources give the field alike, it is that of the first source that gives it. -/
structure Effective (n : Field.Name) (sources : List Entries) (reader : Value → Checked α) (standard a : α) : Prop where
  chosen : ReadAs reader standard (n.chosen? sources) a
  first : n.Alike sources → ReadAs reader standard (sources.findSome? n.value?) a

/-- A field with one name. -/
theorem value?_single (h : n.short = none) (entries : Entries) : n.value? entries = entries.text? n.full := by
  unfold value? given?
  cases hfull : entries.text? n.full with
  | none => simp [h]
  | some v => simp [h, hfull]

/-- A field with two names. -/
theorem value?_double {s : String} (h : n.short = some s) (entries : Entries) :
    n.value? entries = (entries.text? s).or (entries.text? n.full) := by
  unfold value? given?
  cases hshort : entries.text? s with
  | some v => simp [h, hshort]
  | none =>
    cases hfull : entries.text? n.full with
    | none => simp [h, hshort]
    | some v => simp [h, hshort, hfull]

theorem chosen?_single (h : n.short = none) (sources : List Entries) :
    n.chosen? sources = sources.findSome? (·.text? n.full) := by
  rw [chosen?, h]
  rfl

theorem chosen?_double {s : String} (h : n.short = some s) (sources : List Entries) :
    n.chosen? sources = (sources.findSome? (·.text? s)).or (sources.findSome? (·.text? n.full)) := by
  rw [chosen?, h]
  rfl

theorem read_eq_ok_iff {entries : Entries} :
    n.read entries reader standard = .ok a ↔ ReadAs reader standard (n.value? entries) a := by
  have hunder : ∀ (step : Step) (x : Checked α), x.under step = .ok a ↔ x = .ok a := by
    intro step x
    cases x with
    | ok b => rfl
    | bad problems => simp [Checked.under]
  have hread : n.read entries reader standard =
      (n.value? entries).elim (.ok standard) fun v => (reader v).under (.name n.shown) := by
    unfold read value?
    cases (n.given? entries).bind (entries.text? ·) with
    | none => rfl
    | some v => rfl
  rw [hread]
  cases n.value? entries with
  | none => simp [ReadAs, eq_comm]
  | some v => exact hunder _ _

theorem findSome?_congr_of_mem {β γ : Type} {f g : β → Option γ} {l : List β} (h : ∀ x ∈ l, f x = g x) :
    l.findSome? f = l.findSome? g := by
  induction l with
  | nil => rfl
  | cons x rest ih =>
    rw [List.findSome?_cons, List.findSome?_cons, h x List.mem_cons_self, ih fun y hy => h y (List.mem_cons_of_mem _ hy)]

theorem chosen?_of_alike (h : n.Alike sources) : n.chosen? sources = sources.findSome? n.value? := by
  cases hshort : n.short with
  | none =>
    rw [chosen?_single hshort]
    exact findSome?_congr_of_mem fun e _ => (value?_single hshort e).symm
  | some s =>
    rw [chosen?_double hshort]
    rcases h s hshort with hnone | hnone
    · rw [List.findSome?_eq_none_iff.mpr hnone, Option.none_or]
      refine findSome?_congr_of_mem fun e he => ?_
      rw [value?_double hshort, hnone e he, Option.none_or]
    · rw [List.findSome?_eq_none_iff.mpr hnone, Option.or_none]
      refine findSome?_congr_of_mem fun e he => ?_
      rw [value?_double hshort, hnone e he, Option.or_none]

theorem exists_of_chosen? {v : Value} (h : n.chosen? sources = some v) : ∃ e ∈ sources, n.value? e = some v := by
  cases hshort : n.short with
  | none =>
    rw [chosen?_single hshort] at h
    obtain ⟨e, he, hv⟩ := List.exists_of_findSome?_eq_some h
    exact ⟨e, he, (value?_single hshort e).trans hv⟩
  | some s =>
    rw [chosen?_double hshort] at h
    rcases Option.or_eq_some_iff.mp h with hfirst | ⟨hnone, hfull⟩
    · obtain ⟨e, he, hv⟩ := List.exists_of_findSome?_eq_some hfirst
      refine ⟨e, he, ?_⟩
      rw [value?_double hshort, hv, Option.some_or]
    · obtain ⟨e, he, hv⟩ := List.exists_of_findSome?_eq_some hfull
      refine ⟨e, he, ?_⟩
      rw [value?_double hshort, List.findSome?_eq_none_iff.mp hnone e he, Option.none_or, hv]

end Field.Name

/-- Three mappings put over each other: under each of the names the merged one has what they give there. -/
def Stacked (upper middle lower merged : Entries) (names : List String) : Prop :=
  ∀ s ∈ names, merged.text? s = layered (layered (upper.text? s) (middle.text? s)) (lower.text? s)

section Stacks
variable {α : Type} {upper middle lower merged : Entries} {names : List String} {n : Field.Name}
variable {reader : Value → Checked α} {standard : α}

theorem findSome?_three {β γ : Type} (f : β → Option γ) (x y z : β) :
    [x, y, z].findSome? f = (f x).or ((f y).or (f z)) := by
  rw [List.findSome?_cons]
  cases f x with
  | some v => rfl
  | none =>
    rw [List.findSome?_cons]
    cases f y with
    | some v => rfl
    | none => exact List.findSome?_singleton

/-- Where no mapping is given, the first source counts. -/
theorem Stacked.text?_eq {s : String} (h : Stacked upper middle lower merged names) (hs : s ∈ names)
    (hplain : ∀ e ∈ [upper, middle, lower], ∀ v, e.text? s = some v → v.isMap = false) :
    merged.text? s = [upper, middle, lower].findSome? (·.text? s) := by
  rw [h s hs, findSome?_three]
  cases hupper : upper.text? s with
  | some v =>
    have hv := hplain upper (by simp) v hupper
    rw [layered_of_not_map hv, layered_of_not_map hv]
    rfl
  | none =>
    rw [layered_none_left, Option.none_or]
    cases hmiddle : middle.text? s with
    | some v => exact layered_of_not_map (hplain middle (by simp) v hmiddle) _
    | none => rfl

/-- Where the sources give no mapping for a field, the chosen value is found after they are merged. -/
theorem Stacked.value?_eq (h : Stacked upper middle lower merged n.spellings)
    (hplain : ∀ e ∈ [upper, middle, lower], ∀ v, n.value? e = some v → v.isMap = false) :
    n.value? merged = n.chosen? [upper, middle, lower] := by
  cases hshort : n.short with
  | none =>
    rw [Field.Name.value?_single hshort, Field.Name.chosen?_single hshort]
    exact h.text?_eq (by simp [Field.Name.spellings]) fun e he v hv =>
      hplain e he v ((Field.Name.value?_single hshort e).trans hv)
  | some s =>
    have hfirst : merged.text? s = [upper, middle, lower].findSome? (·.text? s) := by
      refine h.text?_eq (by simp [Field.Name.spellings, hshort]) fun e he v hv => hplain e he v ?_
      rw [Field.Name.value?_double hshort, hv, Option.some_or]
    rw [Field.Name.value?_double hshort, Field.Name.chosen?_double hshort, hfirst]
    cases hnone : [upper, middle, lower].findSome? (·.text? s) with
    | some v => rfl
    | none =>
      -- No source writes the short name, so that all that write the field write its full name.
      refine h.text?_eq (by simp [Field.Name.spellings]) fun e he v hv => hplain e he v ?_
      rw [Field.Name.value?_double hshort, List.findSome?_eq_none_iff.mp hnone e he, Option.none_or, hv]

/-- A field that every source gives as its reader wants it can be read after the sources are merged. -/
theorem Stacked.read (h : Stacked upper middle lower merged n.spellings) (hmap : ∀ g a, reader (.map g) ≠ .ok a)
    (hsources : ∀ e ∈ [upper, middle, lower], ∃ a, n.read e reader standard = .ok a) :
    ∃ a, n.read merged reader standard = .ok a ∧ n.Effective [upper, middle, lower] reader standard a := by
  have hread : ∀ e ∈ [upper, middle, lower], ∀ v, n.value? e = some v → ∃ a, reader v = .ok a := by
    intro e he v hv
    obtain ⟨a, ha⟩ := hsources e he
    rw [Field.Name.read_eq_ok_iff, hv] at ha
    exact ⟨a, ha⟩
  have hplain : ∀ e ∈ [upper, middle, lower], ∀ v, n.value? e = some v → v.isMap = false := by
    intro e he v hv
    obtain ⟨a, ha⟩ := hread e he v hv
    cases v with
    | map g => exact absurd ha (hmap g a)
    | _ => rfl
  have hvalue := h.value?_eq hplain
  obtain ⟨a, ha⟩ : ∃ a, Field.Name.ReadAs reader standard (n.chosen? [upper, middle, lower]) a := by
    cases hchosen : n.chosen? [upper, middle, lower] with
    | none => exact ⟨standard, rfl⟩
    | some v =>
      obtain ⟨e, he, hv⟩ := Field.Name.exists_of_chosen? hchosen
      exact hread e he v hv
  refine ⟨a, ?_, ha, fun halike => ?_⟩
  · rw [Field.Name.read_eq_ok_iff, hvalue]
    exact ha
  · rw [← Field.Name.chosen?_of_alike halike]
    exact ha

end Stacks

section Groups

def membersOf : Option Value → Entries
  | some (.map g) => g
  | _ => []

/-- The group is not given, or it is given as a mapping. -/
def IsGroup (a : Option Value) : Prop := a = none ∨ ∃ g, a = some (.map g)

variable {a b c : Option Value}

/-- A mapping is merged onto a mapping, and takes the place of all else. -/
theorem membersOf_layered_map (g : Entries) (b : Option Value) :
    (b = some (.map (membersOf b)) ∧ membersOf (layered (some (.map g)) b) = (membersOf b).merge g) ∨
      (membersOf b = [] ∧ membersOf (layered (some (.map g)) b) = g) := by
  cases b with
  | none => exact .inr ⟨rfl, by rw [layered_none_right]; rfl⟩
  | some v =>
    cases v with
    | map base => exact .inl ⟨rfl, by simp [layered, Value.mergeOnto, membersOf, Entries.merge]⟩
    | _ => exact .inr ⟨rfl, by simp [layered, Value.mergeOnto, membersOf]⟩

theorem text?_membersOf_layered (ha : IsGroup a) (hdistinct : (membersOf a).Distinct) (b : Option Value) (s : String) :
    (membersOf (layered a b)).text? s = layered ((membersOf a).text? s) ((membersOf b).text? s) := by
  rcases ha with rfl | ⟨g, rfl⟩
  · rfl
  · rcases membersOf_layered_map g b with ⟨-, hmerged⟩ | ⟨hempty, hmerged⟩
    · rw [hmerged]
      exact Entries.text?_merge hdistinct _ s
    · rw [hmerged, hempty]
      exact (layered_none_right _).symm

theorem exists_of_mem_membersOf_layered (ha : IsGroup a) {p : Value × Value} (hp : p ∈ membersOf (layered a b)) :
    ∃ q ∈ membersOf a ++ membersOf b, q.1 = p.1 := by
  rcases ha with rfl | ⟨g, rfl⟩
  · exact ⟨p, List.mem_append_right _ hp, rfl⟩
  · rcases membersOf_layered_map g b with ⟨-, hmerged⟩ | ⟨-, hmerged⟩
    · rw [hmerged] at hp
      exact Entries.exists_of_mem_merge hp
    · rw [hmerged] at hp
      exact ⟨p, List.mem_append_left _ hp, rfl⟩

theorem distinct_membersOf_layered (ha : IsGroup a) (hadistinct : (membersOf a).Distinct)
    (hbdistinct : (membersOf b).Distinct) : (membersOf (layered a b)).Distinct := by
  rcases ha with rfl | ⟨g, rfl⟩
  · exact hbdistinct
  · rcases membersOf_layered_map g b with ⟨-, hmerged⟩ | ⟨-, hmerged⟩
    · rw [hmerged]
      exact hbdistinct.merge g
    · rw [hmerged]
      exact hadistinct

theorem isGroup_layered_map (g : Entries) (b : Option Value) :
    ∃ merged, layered (some (.map g)) b = some (.map merged) := by
  cases b with
  | none => exact ⟨g, layered_none_right _⟩
  | some v =>
    cases v with
    | map base => exact ⟨Entries.mergeOnto g base, by simp [layered, Value.mergeOnto]⟩
    | _ => exact ⟨g, by simp [layered, Value.mergeOnto]⟩

theorem IsGroup.layered (ha : IsGroup a) (hb : IsGroup b) : IsGroup (layered a b) := by
  rcases ha with rfl | ⟨g, rfl⟩
  · exact hb
  · exact .inr (isGroup_layered_map g b)

theorem layered_null (b : Option Value) : layered (some .null) b = some .null := layered_of_not_map rfl b

/-- Where null is allowed, the first value that is given says whether there is a group. -/
theorem layered_eq_null_or (ha : a = some .null ∨ IsGroup a) (hb : b = some .null ∨ IsGroup b)
    (hc : c = some .null ∨ IsGroup c) :
    (a.or (b.or c) = some .null ∧ layered (layered a b) c = some .null) ∨
      (a.or (b.or c) ≠ some .null ∧ IsGroup a ∧ IsGroup (layered a b) ∧ IsGroup (layered (layered a b) c)) := by
  rcases ha with rfl | rfl | ⟨g, rfl⟩
  · exact .inl ⟨rfl, by rw [layered_null, layered_null]⟩
  · rw [Option.none_or, layered_none_left]
    rcases hb with rfl | rfl | ⟨g, rfl⟩
    · exact .inl ⟨rfl, layered_null c⟩
    · rw [Option.none_or, layered_none_left]
      rcases hc with rfl | hc
      · exact .inl ⟨rfl, rfl⟩
      · refine .inr ⟨?_, .inl rfl, .inl rfl, hc⟩
        rcases hc with rfl | ⟨g, rfl⟩
        · simp
        · simp
    · exact .inr ⟨by simp, .inl rfl, .inr ⟨g, rfl⟩, .inr (isGroup_layered_map g c)⟩
  · obtain ⟨merged, hmerged⟩ := isGroup_layered_map g b
    rw [hmerged]
    exact .inr ⟨by simp, .inr ⟨g, rfl⟩, .inr ⟨merged, rfl⟩, .inr (isGroup_layered_map merged c)⟩

/-- Groups that are put over each other: their members are, and no key comes from elsewhere. -/
theorem stacked_membersOf (ha : IsGroup a) (hadistinct : (membersOf a).Distinct) (hab : IsGroup (layered a b))
    (hbdistinct : (membersOf b).Distinct) (c : Option Value) (names : List String) :
    Stacked (membersOf a) (membersOf b) (membersOf c) (membersOf (layered (layered a b) c)) names := by
  intro s _
  rw [text?_membersOf_layered hab (distinct_membersOf_layered ha hadistinct hbdistinct),
    text?_membersOf_layered ha hadistinct]

theorem keys_membersOf_layered (ha : IsGroup a) (hab : IsGroup (layered a b)) {p : Value × Value}
    (hp : p ∈ membersOf (layered (layered a b) c)) :
    ∃ e ∈ [membersOf a, membersOf b, membersOf c], ∃ q ∈ e, q.1 = p.1 := by
  obtain ⟨q, hq, hkey⟩ := exists_of_mem_membersOf_layered hab hp
  rcases List.mem_append.mp hq with hq | hq
  · obtain ⟨r, hr, hrkey⟩ := exists_of_mem_membersOf_layered ha hq
    rcases List.mem_append.mp hr with hr | hr
    · exact ⟨_, by simp, r, hr, hrkey.trans hkey⟩
    · exact ⟨membersOf b, by simp, r, hr, hrkey.trans hkey⟩
  · exact ⟨membersOf c, by simp, q, hq, hkey⟩

end Groups

section Unknown
variable {upper middle lower merged entries : Entries} {names : List Field.Name} {n : Field.Name}

theorem Field.Name.given?_eq_some_iff {s : String} :
    n.given? entries = some s ↔ (entries.text? s).isSome ∧
      (n.short = some s ∨ s = n.full ∧ ∀ t, n.short = some t → entries.text? t = none) := by
  unfold given?
  cases n.short with
  | none => grind
  | some short =>
    cases hshort : entries.text? short with
    | none => grind
    | some v => grind

theorem Field.unknown_eq_ok_iff :
    Field.unknown names entries = .ok () ↔
      ∀ p ∈ entries, ∃ s, p.1 = .text s ∧ ∃ n ∈ names, n.given? entries = some s := by
  have hempty : ∀ problems : List Problem,
      (if problems.isEmpty then Checked.ok () else .bad problems) = .ok () ↔ problems = [] := by
    intro problems
    cases problems with
    | nil => simp
    | cons p rest => simp
  unfold Field.unknown
  rw [hempty, List.filterMap_eq_nil_iff]
  refine forall₂_congr fun p _ => ?_
  obtain ⟨key, v⟩ := p
  cases key with
  | text s => simp
  | _ => simp

/-- Sources that give every field alike have no unknown names after they are merged, if each has none. -/
theorem Stacked.unknown (h : ∀ n ∈ names, Stacked upper middle lower merged n.spellings)
    (hkeys : ∀ p ∈ merged, ∃ e ∈ [upper, middle, lower], ∃ q ∈ e, q.1 = p.1)
    (halike : ∀ n ∈ names, n.Alike [upper, middle, lower])
    (hsources : ∀ e ∈ [upper, middle, lower], Field.unknown names e = .ok ()) :
    Field.unknown names merged = .ok () := by
  rw [Field.unknown_eq_ok_iff]
  intro p hp
  obtain ⟨e, he, q, hq, hkey⟩ := hkeys p hp
  obtain ⟨s, hs, n, hn, hgiven⟩ := Field.unknown_eq_ok_iff.mp (hsources e he) q hq
  have hps : p.1 = .text s := hkey.symm.trans hs
  have hfound : (merged.text? s).isSome := Entries.text?_isSome (v := p.2) (hps ▸ hp)
  obtain ⟨hthere, hspelling⟩ := Field.Name.given?_eq_some_iff.mp hgiven
  refine ⟨s, hps, n, hn, Field.Name.given?_eq_some_iff.mpr ⟨hfound, hspelling.imp_right ?_⟩⟩
  rintro ⟨hfull, -⟩
  refine ⟨hfull, fun t ht => ?_⟩
  -- A source writes the full name, so that no source writes the short one.
  rcases halike n hn t ht with hnone | hnone
  · rw [h n hn t (by simp [Field.Name.spellings, ht]), hnone upper (by simp), hnone middle (by simp), hnone lower (by simp)]
    rfl
  · rw [hfull, hnone e he] at hthere
    cases hthere

/-- No name of a field is a name of another one. -/
def Field.Apart (names : List Field.Name) : Prop :=
  ∀ n ∈ names, ∀ m ∈ names, m.short ≠ some n.full ∧ (m.full = n.full → m.short = n.short)

/-- Sources that have no unknown names after they are merged give every field alike. -/
theorem Stacked.alike (h : ∀ n ∈ names, Stacked upper middle lower merged n.spellings) (hnames : Field.Apart names)
    (hunknown : Field.unknown names merged = .ok ()) (hn : n ∈ names) : n.Alike [upper, middle, lower] := by
  have hmerged : ∀ s ∈ n.spellings, merged.text? s = none → ∀ e ∈ [upper, middle, lower], e.text? s = none := by
    intro s hs hnone
    have hall : ¬(merged.text? s).isSome := by simp [hnone]
    rw [h n hn s hs, isSome_layered, isSome_layered] at hall
    simpa [not_or, and_assoc] using hall
  intro s hs
  have hspelling : s ∈ n.spellings := by simp [Field.Name.spellings, Option.mem_def.mp hs]
  cases hfull : merged.text? n.full with
  | none => exact .inr (hmerged _ (by simp [Field.Name.spellings]) hfull)
  | some v =>
    -- The full name is known only if the merged mapping does not write the short one.
    obtain ⟨t, ht, m, hm, hgiven⟩ := Field.unknown_eq_ok_iff.mp hunknown _ (Entries.mem_of_text? hfull)
    obtain ⟨-, hshort | ⟨hmfull, hshort⟩⟩ := Field.Name.given?_eq_some_iff.mp hgiven
    · cases ht
      exact absurd hshort (hnames n hn m hm).1
    · cases ht
      exact .inl (hmerged s hspelling (hshort s (((hnames n hn m hm).2 hmfull.symm).trans hs)))

end Unknown

end CorpusShape
