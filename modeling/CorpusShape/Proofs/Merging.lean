import CorpusShape.Value

/-!
# Merged mappings

What stands under a name after one mapping was put over another: what the upper one gives, merged onto what the lower one
gives if both are mappings, and else what the lower one gives. A mapping holds every key once, and keeps doing so when
it is merged; its keys come from the two mappings.
-/
namespace CorpusShape

namespace Value

theorem sameKey_text {k : Value} {s : String} : k.sameKey (.text s) = true ↔ k = .text s := by
  cases k with
  | text t => simp [sameKey]
  | _ => simp [sameKey, whole?]

theorem text_sameKey {k : Value} {s : String} : (Value.text s).sameKey k = true ↔ k = .text s := by
  cases k with
  | text t =>
    rw [sameKey, beq_iff_eq, Value.text.injEq]
    exact eq_comm
  | _ => simp [sameKey, whole?]

def isMap : Value → Bool
  | .map _ => true
  | _ => false

theorem mergeOnto_of_not_map {v : Value} (h : v.isMap = false) (base : Option Value) : v.mergeOnto base = v := by
  cases v with
  | map entries => cases h
  | _ => simp [mergeOnto]

theorem mergeOnto_none (v : Value) : v.mergeOnto none = v := by
  cases v <;> simp [mergeOnto]

end Value

/-- What stands at a place where the upper value, if there is one, was put over the lower one. -/
def layered : Option Value → Option Value → Option Value
  | none, base => base
  | some v, base => some (v.mergeOnto base)

@[simp] theorem layered_none_left (base : Option Value) : layered none base = base := rfl

@[simp] theorem layered_none_right (upper : Option Value) : layered upper none = upper := by
  cases upper with
  | none => rfl
  | some v => exact congrArg some v.mergeOnto_none

theorem isSome_layered (a b : Option Value) : (layered a b).isSome ↔ a.isSome ∨ b.isSome := by
  cases a with
  | none => simp
  | some v => simp [layered]

theorem layered_of_not_map {v : Value} (h : v.isMap = false) (base : Option Value) : layered (some v) base = some v :=
  congrArg some (v.mergeOnto_of_not_map h base)

namespace Entries
variable {base upper entries : Entries}

def Distinct (entries : Entries) : Prop := entries.Pairwise fun p q => p.1.sameKey q.1 = false

instance (entries : Entries) : Decidable entries.Distinct :=
  inferInstanceAs (Decidable (entries.Pairwise fun p q => p.1.sameKey q.1 = false))

theorem get?_eq_find? (key : Value) (entries : Entries) :
    entries.get? key = (entries.find? fun p => p.1.sameKey key).map (·.2) := by
  induction entries with
  | nil => rfl
  | cons p rest ih =>
    rw [get?, List.find?_cons, ih]
    cases p.1.sameKey key with
    | true => rfl
    | false => rfl

theorem get?_eq_none {key : Value} (h : ∀ p ∈ entries, p.1.sameKey key = false) : entries.get? key = none := by
  induction entries with
  | nil => rfl
  | cons p rest ih =>
    rw [get?, if_neg (by simp [h p List.mem_cons_self])]
    exact ih fun q hq => h q (List.mem_cons_of_mem _ hq)

theorem mem_of_text? {name : String} {v : Value} (h : entries.text? name = some v) : (.text name, v) ∈ entries := by
  unfold text? at h
  induction entries with
  | nil => cases h
  | cons p rest ih =>
    rw [get?] at h
    split at h
    · rename_i hkey
      cases h
      rw [← Value.sameKey_text.mp hkey]
      exact List.mem_cons_self
    · exact List.mem_cons_of_mem _ (ih h)

theorem text?_isSome {name : String} {v : Value} (h : (.text name, v) ∈ entries) : (entries.text? name).isSome := by
  unfold text?
  induction entries with
  | nil => cases h
  | cons p rest ih =>
    rw [get?]
    split
    · rfl
    · rename_i hkey
      rcases List.mem_cons.mp h with rfl | h
      · exact absurd (Value.sameKey_text.mpr rfl) hkey
      · exact ih h

section Put

theorem text?_put_self (entries : Entries) (name : String) (v : Value) :
    (entries.put (.text name) v).text? name = some v := by
  unfold text?
  induction entries with
  | nil => simp [put, get?, Value.sameKey_text]
  | cons p rest ih =>
    rw [put]
    split
    · rename_i hkey
      rw [get?, if_pos hkey]
    · rename_i hkey
      rw [get?, if_neg hkey, ih]

theorem text?_put_of_ne {key : Value} {name : String} (h : key ≠ .text name) (entries : Entries) (v : Value) :
    (entries.put key v).text? name = entries.text? name := by
  unfold text?
  induction entries with
  | nil => simp [put, get?, Value.sameKey_text, h]
  | cons p rest ih =>
    rw [put]
    split
    · rename_i hkey
      have hother : ¬p.1.sameKey (.text name) = true := fun hname =>
        h (Value.text_sameKey.mp (Value.sameKey_text.mp hname ▸ hkey))
      rw [get?, get?, if_neg hother, if_neg hother]
    · rw [get?, get?, ih]

/-- The keys after a value was put in are the old ones, and the new one where it was not there. -/
theorem exists_of_mem_put {key v : Value} {p : Value × Value} (h : p ∈ entries.put key v) :
    p.1 = key ∨ ∃ q ∈ entries, q.1 = p.1 := by
  induction entries with
  | nil =>
    cases List.mem_singleton.mp h
    exact .inl rfl
  | cons q rest ih =>
    rw [put] at h
    split at h
    · rcases List.mem_cons.mp h with rfl | h
      · exact .inr ⟨q, List.mem_cons_self, rfl⟩
      · exact .inr ⟨p, List.mem_cons_of_mem _ h, rfl⟩
    · rcases List.mem_cons.mp h with rfl | h
      · exact .inr ⟨_, List.mem_cons_self, rfl⟩
      · exact (ih h).imp_right fun ⟨r, hr, hkey⟩ => ⟨r, List.mem_cons_of_mem _ hr, hkey⟩

theorem put_of_fresh {key : Value} (h : ∀ p ∈ entries, p.1.sameKey key = false) (v : Value) :
    entries.put key v = entries ++ [(key, v)] := by
  induction entries with
  | nil => rfl
  | cons p rest ih =>
    obtain ⟨hp, hrest⟩ := List.forall_mem_cons.mp h
    rw [Entries.put, if_neg (Bool.eq_false_iff.mp hp), ih hrest]
    rfl

theorem Distinct.put (h : entries.Distinct) (key v : Value) : (entries.put key v).Distinct := by
  induction entries with
  | nil => exact List.pairwise_singleton _ _
  | cons p rest ih =>
    obtain ⟨hfirst, hrest⟩ := List.pairwise_cons.mp h
    rw [Entries.put]
    split
    · exact List.pairwise_cons.mpr ⟨hfirst, hrest⟩
    · rename_i hkey
      refine List.pairwise_cons.mpr ⟨fun q hq => ?_, ih hrest⟩
      rcases exists_of_mem_put hq with hq | ⟨r, hr, hq⟩
      · rw [hq]
        exact Bool.not_eq_true _ ▸ hkey
      · rw [← hq]
        exact hfirst r hr

end Put

section Merge

theorem merge_cons (base : Entries) (p : Value × Value) (upper : Entries) :
    base.merge (p :: upper) = (base.put p.1 (p.2.mergeOnto (base.get? p.1))).merge upper := by
  unfold merge
  rw [mergeOnto]

theorem merge_of_distinct (h : Distinct (base ++ upper)) : base.merge upper = base ++ upper := by
  induction upper generalizing base with
  | nil => exact (List.append_nil base).symm
  | cons p rest ih =>
    have hfresh : ∀ q ∈ base, q.1.sameKey p.1 = false := fun q hq =>
      (List.pairwise_append.mp h).2.2 q hq p List.mem_cons_self
    have happend : base ++ [p] ++ rest = base ++ p :: rest := by simp
    rw [merge_cons, get?_eq_none hfresh, Value.mergeOnto_none, put_of_fresh hfresh, ih (happend ▸ h), happend]

/-- What stands under a name is the upper value put over the lower one. -/
theorem text?_merge (h : upper.Distinct) (base : Entries) (name : String) :
    (base.merge upper).text? name = layered (upper.text? name) (base.text? name) := by
  induction upper generalizing base with
  | nil => rfl
  | cons p rest ih =>
    obtain ⟨hfirst, hrest⟩ := List.pairwise_cons.mp h
    rw [merge_cons, ih hrest]
    by_cases hkey : p.1 = .text name
    · have hother : text? name rest = none := by
        refine get?_eq_none fun q hq => Bool.eq_false_iff.mpr fun hname => ?_
        have hsame : p.1.sameKey q.1 = true := by
          rw [hkey, Value.sameKey_text.mp hname]
          exact Value.sameKey_text.mpr rfl
        rw [hfirst q hq] at hsame
        contradiction
      have hhead : text? name (p :: rest) = some p.2 := by
        rw [text?, get?, if_pos (Value.sameKey_text.mpr hkey)]
      rw [hother, hhead, hkey, text?_put_self]
      rfl
    · have hhead : text? name (p :: rest) = text? name rest := by
        rw [text?, get?, if_neg (mt Value.sameKey_text.mp hkey)]
        rfl
      rw [hhead, text?_put_of_ne hkey]

theorem Distinct.merge (h : base.Distinct) (upper : Entries) : (base.merge upper).Distinct := by
  induction upper generalizing base with
  | nil => exact h
  | cons p rest ih =>
    rw [merge_cons]
    exact ih (h.put _ _)

/-- The keys of merged mappings come from the two. -/
theorem exists_of_mem_merge {p : Value × Value} (h : p ∈ base.merge upper) : ∃ q ∈ upper ++ base, q.1 = p.1 := by
  induction upper generalizing base with
  | nil => exact ⟨p, h, rfl⟩
  | cons q rest ih =>
    rw [merge_cons] at h
    obtain ⟨r, hr, hkey⟩ := ih h
    rcases List.mem_append.mp hr with hr | hr
    · exact ⟨r, List.mem_append_left _ (List.mem_cons_of_mem _ hr), hkey⟩
    · rcases exists_of_mem_put hr with hq | ⟨e, he, heq⟩
      · exact ⟨q, List.mem_append_left _ List.mem_cons_self, hq.symm.trans hkey⟩
      · exact ⟨e, List.mem_append_right _ he, heq.trans hkey⟩

end Merge

end Entries

end CorpusShape
