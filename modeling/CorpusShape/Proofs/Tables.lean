import CorpusShape.Corpus

/-!
# Tables and well keyed corpora

A table is looked up by its first entry of a name. Where every name stands at most once the order of the
entries does not matter for a look-up, and the entries are the names with what they are looked up as. A
corpus is well keyed if every module stands under its own path, and only there; a corpus that is built by
adding modules is.
-/
namespace CorpusShape

namespace Table
variable {α β : Type}

@[simp] theorem keys_nil : keys ([] : Table α) = [] := rfl

@[simp] theorem keys_cons (p : String × α) (rest : Table α) : keys (p :: rest) = p.1 :: keys rest := rfl

theorem mem_of_get? {t : Table α} {name : String} {value : α} (h : t.get? name = some value) :
    (name, value) ∈ t := by
  induction t with
  | nil => simp at h
  | cons p rest ih =>
    by_cases hp : p.1 = name
    · have hv : p.2 = value := by simpa [get?, hp] using h
      rw [← hp, ← hv]
      exact List.mem_cons_self
    · have hrest : get? rest name = some value := by simpa [get?, hp] using h
      exact List.mem_cons_of_mem _ (ih hrest)

theorem get?_of_mem_keys {t : Table α} {name : String} (h : name ∈ t.keys) :
    ∃ value, t.get? name = some value := by
  induction t with
  | nil => simp at h
  | cons p rest ih =>
    by_cases hp : p.1 = name
    · exact ⟨p.2, by simp [get?, hp]⟩
    · have hrest : name ∈ keys rest := by simpa [Ne.symm hp] using h
      obtain ⟨value, hvalue⟩ := ih hrest
      exact ⟨value, by simpa [get?, hp] using hvalue⟩

theorem contains_iff_mem_keys (t : Table α) (name : String) : t.contains name = true ↔ name ∈ t.keys := by
  constructor
  · intro h
    obtain ⟨value, hvalue⟩ := Option.isSome_iff_exists.mp h
    exact mem_keys_of_get? hvalue
  · intro h
    obtain ⟨value, hvalue⟩ := get?_of_mem_keys h
    simp [contains, hvalue]

theorem get?_eq_none {t : Table α} {name : String} (h : name ∉ t.keys) : t.get? name = none := by
  cases hg : t.get? name with
  | none => rfl
  | some value => exact absurd (mem_keys_of_get? hg) h

theorem get?_eq_none_iff {t : Table α} {name : String} : t.get? name = none ↔ name ∉ t.keys := by
  refine ⟨fun h hk => ?_, get?_eq_none⟩
  obtain ⟨value, hvalue⟩ := get?_of_mem_keys hk
  simp [h] at hvalue

theorem get?_of_mem {t : Table α} (hn : t.keys.Nodup) {name : String} {value : α}
    (h : (name, value) ∈ t) : t.get? name = some value := by
  induction t with
  | nil => simp at h
  | cons p rest ih =>
    obtain ⟨hp, hrest⟩ := List.nodup_cons.mp hn
    rcases List.mem_cons.mp h with heq | hmem
    · simp [get?, ← heq]
    · have hk : name ∈ keys rest := List.mem_map_of_mem hmem
      have hne : p.1 ≠ name := by
        rintro rfl
        exact hp hk
      simpa [get?, hne] using ih hrest hmem

/-- The order of the entries does not matter for a look-up. -/
theorem get?_eq_of_perm {t u : Table α} (h : t.Perm u) (hn : t.keys.Nodup) (name : String) :
    t.get? name = u.get? name := by
  have hu : u.keys.Nodup := (h.map _).nodup_iff.mp hn
  cases hg : t.get? name with
  | some value => exact (get?_of_mem hu (h.mem_iff.mp (mem_of_get? hg))).symm
  | none =>
    refine (get?_eq_none fun hk => ?_).symm
    obtain ⟨value, hvalue⟩ := get?_of_mem_keys ((h.map _).mem_iff.mpr hk)
    simp [hg] at hvalue

theorem put_of_not_mem {t : Table α} {name : String} (h : name ∉ t.keys) (value : α) :
    t.put name value = t ++ [(name, value)] := by
  induction t with
  | nil => rfl
  | cons p rest ih =>
    obtain ⟨hne, hrest⟩ := not_or.mp (mt List.mem_cons.mpr h)
    have hp : p.1 ≠ name := fun he => hne he.symm
    simp only [put, hp, if_false, ih hrest, List.cons_append]

theorem keys_put (t : Table α) (name : String) (value : α) :
    (t.put name value).keys = if name ∈ t.keys then t.keys else t.keys ++ [name] := by
  induction t with
  | nil => simp [put]
  | cons p rest ih =>
    by_cases hp : p.1 = name
    · simp [put, hp]
    · have hput : put (p :: rest) name value = p :: put rest name value := by simp [put, hp]
      rw [hput, keys_cons, ih]
      by_cases hk : name ∈ keys rest
      · simp [hk]
      · simp [hk, Ne.symm hp]

theorem mem_keys_put (t : Table α) (name other : String) (value : α) :
    other ∈ (t.put name value).keys ↔ other = name ∨ other ∈ t.keys := by
  rw [keys_put]
  by_cases h : name ∈ t.keys
  · simp only [h, if_true]
    exact ⟨Or.inr, fun hk => hk.elim (fun he => he ▸ h) id⟩
  · simp [h, or_comm]

theorem nodup_keys_put {t : Table α} (hn : t.keys.Nodup) (name : String) (value : α) :
    (t.put name value).keys.Nodup := by
  rw [keys_put]
  by_cases h : name ∈ t.keys
  · simpa [h] using hn
  · simp only [h, if_false]
    exact List.nodup_append.mpr ⟨hn, by simp, by
      intro a ha b hb
      rw [List.mem_singleton.mp hb]
      exact fun he => h (he ▸ ha)⟩

theorem forall_mem_put {P : String × α → Prop} {t : Table α} {name : String} {value : α}
    (ht : ∀ e ∈ t, P e) (hv : P (name, value)) : ∀ e ∈ t.put name value, P e := by
  induction t with
  | nil => simpa [put] using hv
  | cons p rest ih =>
    obtain ⟨hp, hrest⟩ := List.forall_mem_cons.mp ht
    by_cases h : p.1 = name
    · simp only [put, h, if_true]
      exact List.forall_mem_cons.mpr ⟨hv, hrest⟩
    · simp only [put, h, if_false]
      exact List.forall_mem_cons.mpr ⟨hp, ih hrest⟩

theorem get?_erase_of_ne (t : Table α) {name other : String} (h : name ≠ other) :
    (t.erase name).get? other = t.get? other := by
  induction t with
  | nil => rfl
  | cons p rest ih =>
    by_cases hp : p.1 = name
    · have hne : p.1 ≠ other := hp ▸ h
      simp [erase, get?, hp, h]
    · simp [erase, get?, hp, ih]

theorem erase_eq_filter {t : Table α} (hn : t.keys.Nodup) (name : String) :
    t.erase name = t.filter (·.1 ≠ name) := by
  induction t with
  | nil => rfl
  | cons p rest ih =>
    obtain ⟨hfresh, hrest⟩ := List.nodup_cons.mp hn
    by_cases hp : p.1 = name
    · have hkept : ∀ e ∈ rest, e.1 ≠ name := by
        rintro e he rfl
        exact hfresh (List.mem_map.mpr ⟨e, he, hp.symm⟩)
      have hall : rest.filter (·.1 ≠ name) = rest := List.filter_eq_self.mpr (by simpa using hkept)
      rw [List.filter_cons_of_neg (by simpa using hp), hall]
      simp [erase, hp]
    · rw [List.filter_cons_of_pos (by simpa using hp), ← ih hrest]
      simp [erase, hp]

def adjust (t : Table α) (g : String → α → β) : Table β := t.map fun e => (e.1, g e.1 e.2)

@[simp] theorem keys_adjust (t : Table α) (g : String → α → β) : (t.adjust g).keys = t.keys := by
  simp [adjust, keys]

theorem get?_adjust (t : Table α) (g : String → α → β) (name : String) :
    (t.adjust g).get? name = (t.get? name).map (g name) := by
  induction t with
  | nil => rfl
  | cons p rest ih =>
    by_cases hp : p.1 = name
    · simp [adjust, get?, hp]
    · simpa [adjust, get?, hp] using ih

theorem adjust_adjust {γ : Type} (t : Table α) (g : String → α → β) (f : String → β → γ) :
    (t.adjust g).adjust f = t.adjust fun name value => f name (g name value) := by
  simp [adjust]

theorem adjust_congr (t : Table α) {g f : String → α → β} (h : ∀ name value, g name value = f name value) :
    t.adjust g = t.adjust f := by
  simp [adjust, h]

end Table

theorem nodup_eraseDups {α : Type} [BEq α] [LawfulBEq α] (xs : List α) : xs.eraseDups.Nodup := by
  match xs with
  | [] => exact List.nodup_nil
  | x :: rest =>
    have hlt : (rest.filter fun b => !b == x).length < (x :: rest).length :=
      Nat.lt_succ_of_le (List.length_filter_le _ _)
    rw [List.eraseDups_cons]
    refine List.nodup_cons.mpr ⟨fun h => ?_, nodup_eraseDups _⟩
    have hx := List.mem_eraseDups.mp h
    simp at hx
termination_by xs.length
decreasing_by exact hlt

@[simp] theorem mem_sortedNames {names : List String} {name : String} :
    name ∈ sortedNames names ↔ name ∈ names := by
  simp [sortedNames, List.mem_eraseDups]

theorem nodup_sortedNames (names : List String) : (sortedNames names).Nodup := nodup_eraseDups _

namespace Corpus

/-- Every module stands under its own path, and only there. -/
structure Keyed (c : Corpus) : Prop where
  nodup : c.paths.Nodup
  own : ∀ e ∈ c.modules, e.2.path = e.1

theorem keyed_add {c : Corpus} (hc : c.Keyed) (m : Module) : (c.add m).Keyed :=
  ⟨Table.nodup_keys_put hc.nodup _ _, Table.forall_mem_put hc.own rfl⟩

/-- A corpus that is built by adding modules is well keyed. -/
theorem keyed_ofModules (ms : List Module) : (ofModules ms).Keyed := by
  have hfold : ∀ (ms : List Module) (c : Corpus), c.Keyed → (ms.foldl add c).Keyed := by
    intro ms
    induction ms with
    | nil => exact fun c hc => hc
    | cons m ms ih => exact fun c hc => ih _ (keyed_add hc m)
  exact hfold ms {} ⟨List.nodup_nil, by simp⟩

namespace Keyed
variable {c : Corpus} (hc : c.Keyed)
include hc

theorem paths_eq : c.paths = c.toList.map (·.path) := by
  simp only [paths, Table.keys, toList, List.map_map]
  exact List.map_congr_left fun e he => (hc.own e he).symm

theorem mem_paths {m : Module} (hm : m ∈ c.toList) : m.path ∈ c.paths := by
  rw [hc.paths_eq]
  exact List.mem_map_of_mem hm

/-- The same modules in another order. -/
theorem of_perm {d : Corpus} (h : c.modules.Perm d.modules) : d.Keyed :=
  ⟨(h.map _).nodup_iff.mp hc.nodup, fun e he => hc.own e (h.mem_iff.mpr he)⟩

end Keyed

end Corpus

end CorpusShape
