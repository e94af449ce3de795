import CorpusShape.Proofs.Merging

/-!
# Merged mappings at every path

A mapping whose keys are texts at every depth is put over another one. What stands at a path of names afterwards depends
only on what the two hold there and on the way: mappings of both are merged, any other value of the upper one is taken
whole, and where the upper one says nothing the lower one is kept. The names of the lower mapping come first, in their
order. Nothing, and the upper mapping once more, can be put over the result without a change.
-/
namespace CorpusShape

namespace Entries

def nameOf? : Value → Option String
  | .text s => some s
  | _ => none

def names (entries : Entries) : List String := entries.filterMap fun p => nameOf? p.1

/-- Every key is a text and stands once, at every depth to which mappings nest. -/
inductive Named : Entries → Prop where
  | nil : Named []
  | cons {name : String} {v : Value} {rest : Entries} (fresh : name ∉ names rest)
      (inner : ∀ entries, v = .map entries → Named entries) (others : Named rest) : Named ((.text name, v) :: rest)

end Entries

theorem Value.mergeOnto_map (above below : Entries) :
    (Value.map above).mergeOnto (some (.map below)) = .map (Entries.merge below above) := by
  rw [mergeOnto, Entries.merge]

/-- A value that is put over another is merged with it if both are mappings, and else taken as it is. -/
theorem Value.mergeOnto_cases (v : Value) (base : Option Value) :
    (∃ above below, v = .map above ∧ base = some (.map below) ∧ v.mergeOnto base = .map (Entries.merge below above)) ∨
      (¬(v.isMap = true ∧ base.any isMap = true) ∧ v.mergeOnto base = v) := by
  cases v with
  | map above =>
    rcases base with _ | w
    · exact .inr ⟨by simp, by simp [mergeOnto]⟩
    · cases w with
      | map below => exact .inl ⟨above, below, rfl, rfl, mergeOnto_map above below⟩
      | _ => exact .inr ⟨by simp [isMap], by simp [mergeOnto]⟩
  | _ => exact .inr ⟨by simp [isMap], mergeOnto_of_not_map rfl base⟩

/-- What stands at a path of names inside a value. -/
def Value.at? : Value → List String → Option Value
  | v, [] => some v
  | .map entries, name :: rest => (Entries.text? name entries).bind (at? · rest)
  | _, _ :: _ => none

namespace Entries
variable {base upper entries : Entries} {name : String}

@[simp] theorem names_cons (name : String) (v : Value) (entries : Entries) :
    names ((.text name, v) :: entries) = name :: names entries := rfl

@[simp] theorem text?_cons_self (name : String) (v : Value) (entries : Entries) :
    text? name ((.text name, v) :: entries) = some v := by
  rw [text?, get?, if_pos (Value.sameKey_text.mpr rfl)]

theorem text?_cons_of_ne {other : String} (h : other ≠ name) (v : Value) (entries : Entries) :
    text? name ((.text other, v) :: entries) = text? name entries := by
  rw [text?, get?, if_neg fun hkey => h (Value.text.inj (Value.sameKey_text.mp hkey))]
  rfl

namespace Named

theorem distinct (h : entries.Named) : entries.Distinct := by
  induction h with
  | nil => exact List.Pairwise.nil
  | @cons name v rest fresh _ _ _ ih =>
    refine List.pairwise_cons.mpr ⟨fun p hp => Bool.eq_false_iff.mpr fun hsame => fresh ?_, ih⟩
    refine List.mem_filterMap.mpr ⟨p, hp, ?_⟩
    rw [Value.text_sameKey.mp hsame]
    rfl

/-- What holds of a mapping as soon as it holds of the mappings under its names holds of every named mapping. -/
theorem induct {P : Entries → Prop} (h : entries.Named)
    (step : ∀ entries, Named entries → (∀ name inner, text? name entries = some (.map inner) → Named inner ∧ P inner) →
      P entries) : P entries := by
  refine step entries h ?_
  induction h with
  | nil =>
    intro name inner h
    cases h
  | @cons other v rest fresh hinner _ ihinner ih =>
    intro name inner h
    by_cases hname : other = name
    · subst hname
      rw [text?_cons_self] at h
      cases h
      exact ⟨hinner inner rfl, step inner (hinner inner rfl) (ihinner inner rfl)⟩
    · exact ih name inner (text?_cons_of_ne hname v rest ▸ h)

theorem inner_of_text? {inner : Entries} (h : entries.Named) (hname : entries.text? name = some (.map inner)) : inner.Named :=
  h.induct (P := fun entries => ∀ name inner, text? name entries = some (.map inner) → Named inner)
    (fun _ _ hbelow name inner h => (hbelow name inner h).1) name inner hname

/-- A named mapping is given by its names and what stands under them. -/
theorem eq_map_names (h : entries.Named) :
    entries = entries.names.map fun name => (.text name, (entries.text? name).getD .null) := by
  induction h with
  | nil => rfl
  | @cons name v rest fresh _ _ _ ih =>
    rw [names_cons, List.map_cons, text?_cons_self]
    refine congrArg _ (ih.trans (List.map_congr_left fun other hother => ?_))
    have hne : name ≠ other := fun heq => fresh (heq ▸ hother)
    rw [text?_cons_of_ne hne]

theorem ext (hbase : base.Named) (hupper : upper.Named) (hnames : base.names = upper.names)
    (hvalues : ∀ name, base.text? name = upper.text? name) : base = upper := by
  rw [hbase.eq_map_names, hupper.eq_map_names, hnames]
  exact List.map_congr_left fun name _ => by rw [hvalues]

end Named

section Merge

theorem names_put (entries : Entries) (name : String) (v : Value) :
    (entries.put (.text name) v).names = if name ∈ entries.names then entries.names else entries.names ++ [name] := by
  induction entries with
  | nil => rfl
  | cons p rest ih =>
    rw [put]
    by_cases hkey : p.1.sameKey (.text name) = true
    · have hhead : names ((p.1, v) :: rest) = names (p :: rest) := rfl
      have hmem : name ∈ names (p :: rest) :=
        List.mem_filterMap.mpr ⟨p, List.mem_cons_self, congrArg nameOf? (Value.sameKey_text.mp hkey)⟩
      rw [if_pos hkey, hhead, if_pos hmem]
    · rw [if_neg hkey]
      cases hname : nameOf? p.1 with
      | none =>
        have hskip (es : Entries) : names (p :: es) = names es := List.filterMap_cons_none hname
        rw [hskip, hskip, ih]
      | some other =>
        have htake (es : Entries) : names (p :: es) = other :: names es := List.filterMap_cons_some hname
        have hne : name ≠ other := by
          rintro rfl
          refine hkey (Value.sameKey_text.mpr ?_)
          cases hp : p.1 <;> simp_all [nameOf?]
        rw [htake, htake, ih]
        by_cases hmem : name ∈ names rest
        · rw [if_pos hmem, if_pos (List.mem_cons_of_mem _ hmem)]
        · rw [if_neg hmem, if_neg (by simp [hne, hmem]), List.cons_append]

theorem Named.put (h : entries.Named) {v : Value} (hv : ∀ inner, v = .map inner → Named inner) (name : String) :
    (entries.put (.text name) v).Named := by
  induction h with
  | nil => exact .cons (by simp [names]) hv .nil
  | @cons other w rest fresh hinner hrest _ ih =>
    rw [Entries.put]
    by_cases hkey : (Value.text other).sameKey (.text name) = true
    · rw [if_pos hkey]
      exact .cons fresh hv hrest
    · rw [if_neg hkey]
      refine .cons (fun hmem => ?_) hinner ih
      rw [names_put] at hmem
      have hne : other ≠ name := fun heq => hkey (Value.sameKey_text.mpr (congrArg _ heq))
      split at hmem
      · exact fresh hmem
      · rcases List.mem_append.mp hmem with hmem | hmem
        · exact fresh hmem
        · exact hne (List.mem_singleton.mp hmem)

/-- The names of the lower mapping, and after them those that only the upper one has, in its order. -/
theorem names_merge (hupper : upper.Named) (base : Entries) :
    (base.merge upper).names = base.names ++ upper.names.filter (· ∉ base.names) := by
  induction hupper generalizing base with
  | nil => exact (List.append_nil _).symm
  | @cons name v rest fresh _ _ _ ih =>
    rw [merge_cons, ih, names_put, names_cons]
    by_cases hname : name ∈ base.names
    · rw [if_pos hname, List.filter_cons_of_neg (by simpa using hname)]
    · rw [if_neg hname, List.filter_cons_of_pos (by simpa using hname), List.append_assoc, List.singleton_append]
      refine congrArg (base.names ++ name :: ·) (List.filter_congr fun other hother => ?_)
      have hne : other ≠ name := fun heq => fresh (heq ▸ hother)
      simp [hne]

theorem Named.merge (hbase : base.Named) (hupper : upper.Named) : (base.merge upper).Named := by
  induction hupper generalizing base with
  | nil => exact hbase
  | @cons name v rest fresh hinner _ ihinner ih =>
    rw [merge_cons]
    refine ih (hbase.put (fun merged hmerged => ?_) name)
    rcases v.mergeOnto_cases (base.get? (.text name)) with ⟨above, below, rfl, hbelow, heq⟩ | ⟨-, heq⟩
    · rw [heq] at hmerged
      cases hmerged
      exact ihinner above rfl (hbase.inner_of_text? hbelow)
    · exact hinner merged (heq ▸ hmerged)

theorem merge_self (h : entries.Named) : entries.merge entries = entries := by
  refine h.induct (P := fun entries => entries.merge entries = entries) fun entries h hinner => ?_
  refine (h.merge h).ext h ?_ fun name => ?_
  · rw [names_merge h, List.filter_eq_nil_iff.mpr (by simp), List.append_nil]
  · rw [text?_merge h.distinct]
    cases hname : text? name entries with
    | none => rfl
    | some v =>
      refine congrArg some ?_
      rcases v.mergeOnto_cases (some v) with ⟨above, below, rfl, hbelow, heq⟩ | ⟨-, heq⟩
      · cases hbelow
        rw [heq, (hinner name above hname).2]
      · exact heq

theorem merge_merge_self (hbase : base.Named) (hupper : upper.Named) :
    (base.merge upper).merge upper = base.merge upper := by
  refine hupper.induct (P := fun upper => ∀ base : Entries, base.Named →
    (base.merge upper).merge upper = base.merge upper) (fun upper hupper hinner base hbase => ?_) base hbase
  have hmerged := hbase.merge hupper
  refine (hmerged.merge hupper).ext hmerged ?_ fun name => ?_
  · -- Every name of the upper mapping is a name of the merged one.
    rw [names_merge hupper (base.merge upper), List.filter_eq_nil_iff.mpr, List.append_nil]
    intro other hother
    rw [names_merge hupper]
    by_cases hmem : other ∈ base.names
    · simp [hmem]
    · simp [hmem, hother]
  · rw [text?_merge hupper.distinct, text?_merge hupper.distinct]
    cases hname : text? name upper with
    | none => rfl
    | some v =>
      refine congrArg some ?_
      rcases v.mergeOnto_cases (text? name base) with ⟨above, below, rfl, hbelow, heq⟩ | ⟨-, heq⟩
      · obtain ⟨habove, ih⟩ := hinner name above hname
        rw [layered, heq, Value.mergeOnto_map, ih below (hbase.inner_of_text? hbelow)]
      · rw [layered, heq]
        cases v with
        | map above => rw [Value.mergeOnto_map, merge_self (hinner name above hname).1]
        | _ => exact Value.mergeOnto_of_not_map rfl _

end Merge

end Entries

namespace Value
variable {v w : Value} {path : List String}

@[simp] theorem at?_nil (v : Value) : v.at? [] = some v := by
  cases v <;> rfl

theorem at?_map_cons (entries : Entries) (name : String) (rest : List String) :
    (map entries).at? (name :: rest) = (entries.text? name).bind (at? · rest) := rfl

theorem at?_of_not_map (h : v.isMap = false) (hpath : path ≠ []) : v.at? path = none := by
  cases path with
  | nil => exact absurd rfl hpath
  | cons name rest =>
    cases v with
    | map entries => cases h
    | _ => rfl

theorem at?_append (v : Value) (path rest : List String) : v.at? (path ++ rest) = (v.at? path).bind (at? · rest) := by
  induction path generalizing v with
  | nil => simp
  | cons name path ih =>
    cases v with
    | map entries =>
      rw [List.cons_append, at?_map_cons, at?_map_cons]
      cases Entries.text? name entries with
      | none => rfl
      | some w => exact ih w
    | _ => rfl

/-- Only inside a mapping, or at it, stands a mapping. -/
theorem isMap_of_at?_eq_map {entries : Entries} (h : v.at? path = some (.map entries)) : ∃ outer, v = .map outer := by
  cases v with
  | map outer => exact ⟨outer, rfl⟩
  | _ =>
    cases path with
    | nil => cases h
    | cons => cases h

end Value

namespace Entries
variable {base upper : Entries} {path : List String}

/-- The upper mapping holds a value on the way to the path that is no mapping, so that nothing can stand at the path. -/
def Covers (upper : Entries) (path : List String) : Prop :=
  ∃ before after v, path = before ++ after ∧ after ≠ [] ∧ (Value.map upper).at? before = some v ∧ v.isMap = false

theorem Covers.cons {above : Entries} {name : String} (h : above.Covers path)
    (hname : upper.text? name = some (.map above)) : upper.Covers (name :: path) := by
  obtain ⟨before, after, v, rfl, hafter, hv, hmap⟩ := h
  exact ⟨name :: before, after, v, rfl, hafter, by rw [Value.at?_map_cons, hname]; exact hv, hmap⟩

/-- What stands at every path after one mapping was put over another. -/
structure Overlaid (base upper result : Entries) : Prop where
  /-- Mappings of both are merged, the names of the lower one first. -/
  merged : ∀ (path : List String) (below above : Entries), (Value.map base).at? path = some (.map below) →
    (Value.map upper).at? path = some (.map above) →
      (Value.map result).at? path = some (.map (below.merge above)) ∧
        (below.merge above).names = below.names ++ above.names.filter (· ∉ below.names)
  /-- Any other value of the upper mapping is taken whole. -/
  taken : ∀ path v, (Value.map upper).at? path = some v →
    ¬(v.isMap = true ∧ ((Value.map base).at? path).any Value.isMap = true) → (Value.map result).at? path = some v
  /-- Inside a value that was taken whole and is no mapping there is nothing. -/
  covered : ∀ path, upper.Covers path → (Value.map result).at? path = none
  /-- What only the lower mapping has is kept, and what neither has does not appear. -/
  kept : ∀ path, (Value.map upper).at? path = none → ¬upper.Covers path →
    (Value.map result).at? path = (Value.map base).at? path

/-! Each of these laws is shown step by step along the path: below the first name, the two mappings under it take the
place of the two that were merged. -/

section Paths

theorem at?_merge_of_maps (hupper : upper.Named) {below above : Entries}
    (hbelow : (Value.map base).at? path = some (.map below)) (habove : (Value.map upper).at? path = some (.map above)) :
    (Value.map (base.merge upper)).at? path = some (.map (below.merge above)) := by
  induction path generalizing base upper with
  | nil =>
    cases hbelow
    cases habove
    rfl
  | cons name rest ih =>
    rw [Value.at?_map_cons] at hbelow habove ⊢
    obtain ⟨w, hw, hwrest⟩ := Option.bind_eq_some_iff.mp hbelow
    obtain ⟨v, hv, hvrest⟩ := Option.bind_eq_some_iff.mp habove
    obtain ⟨low, rfl⟩ := Value.isMap_of_at?_eq_map hwrest
    obtain ⟨high, rfl⟩ := Value.isMap_of_at?_eq_map hvrest
    rw [text?_merge hupper.distinct, hv, hw, layered, Value.mergeOnto_map]
    exact ih (hupper.inner_of_text? hv) hwrest hvrest

theorem at?_merge_of_taken (hupper : upper.Named) {v : Value} (hv : (Value.map upper).at? path = some v)
    (hmaps : ¬(v.isMap = true ∧ ((Value.map base).at? path).any Value.isMap = true)) :
    (Value.map (base.merge upper)).at? path = some v := by
  induction path generalizing base upper with
  | nil =>
    cases hv
    exact absurd ⟨rfl, rfl⟩ hmaps
  | cons name rest ih =>
    rw [Value.at?_map_cons] at hv hmaps ⊢
    obtain ⟨w, hw, hwrest⟩ := Option.bind_eq_some_iff.mp hv
    rw [text?_merge hupper.distinct, hw, layered]
    rcases w.mergeOnto_cases (base.text? name) with ⟨above, below, rfl, hbelow, heq⟩ | ⟨-, heq⟩
    · rw [heq]
      refine ih (hupper.inner_of_text? hw) hwrest ?_
      rw [hbelow] at hmaps
      exact hmaps
    · rw [heq]
      exact hwrest

theorem at?_merge_of_covers (hupper : upper.Named) (h : upper.Covers path) :
    (Value.map (base.merge upper)).at? path = none := by
  obtain ⟨before, after, v, rfl, hafter, hv, hmap⟩ := h
  have htaken : (Value.map (base.merge upper)).at? before = some v := at?_merge_of_taken hupper hv (by simp [hmap])
  rw [Value.at?_append, htaken]
  exact Value.at?_of_not_map hmap hafter

theorem at?_merge_of_kept (hupper : upper.Named) (hnone : (Value.map upper).at? path = none) (hcovers : ¬upper.Covers path) :
    (Value.map (base.merge upper)).at? path = (Value.map base).at? path := by
  induction path generalizing base upper with
  | nil => cases hnone
  | cons name rest ih =>
    rw [Value.at?_map_cons] at hnone ⊢
    rw [Value.at?_map_cons, text?_merge hupper.distinct]
    cases hname : upper.text? name with
    | none => rfl
    | some v =>
      rw [hname] at hnone
      have hrest : rest ≠ [] := by
        rintro rfl
        cases hnone.symm.trans (Value.at?_nil v)
      have hmap : v.isMap = true := Bool.not_eq_false _ ▸ fun hmap =>
        hcovers ⟨[name], rest, v, rfl, hrest, by rw [Value.at?_map_cons, hname]; exact Value.at?_nil v, hmap⟩
      rcases v.mergeOnto_cases (base.text? name) with ⟨above, below, rfl, hbelow, heq⟩ | ⟨hmaps, heq⟩
      · rw [layered, heq, hbelow]
        exact ih (hupper.inner_of_text? hname) hnone fun h => hcovers (h.cons hname)
      · rw [layered, heq]
        refine hnone.trans ?_
        cases hbase : base.text? name with
        | none => rfl
        | some w =>
          rw [hbase] at hmaps
          exact (Value.at?_of_not_map (Bool.eq_false_iff.mpr fun hw => hmaps ⟨hmap, hw⟩) hrest).symm

end Paths

theorem Named.inner_of_at? (h : base.Named) {inner : Entries} (hinner : (Value.map base).at? path = some (.map inner)) :
    inner.Named := by
  induction path generalizing base with
  | nil =>
    cases hinner
    exact h
  | cons name rest ih =>
    obtain ⟨v, hv, hrest⟩ := Option.bind_eq_some_iff.mp hinner
    obtain ⟨outer, rfl⟩ := Value.isMap_of_at?_eq_map hrest
    exact ih (h.inner_of_text? hv) hrest

/-- One nested mapping put over another holds at every path what the two ask for, and is again a nested mapping with texts
for its keys. Nothing changes where nothing is put over a mapping, or a mapping over nothing, over itself, or over a
mapping over which it was put before. -/
theorem merge_at_every_path (hbase : base.Named) (hupper : upper.Named) :
    (base.merge upper).Named ∧ Overlaid base upper (base.merge upper) ∧ base.merge [] = base ∧
      merge [] upper = upper ∧ base.merge base = base ∧ (base.merge upper).merge upper = base.merge upper := by
  refine ⟨hbase.merge hupper, ⟨fun path below above hbelow habove => ?_, fun path v hv hmaps => ?_, fun path h => ?_,
    fun path hnone hcovers => ?_⟩, rfl, merge_of_distinct hupper.distinct, merge_self hbase, merge_merge_self hbase hupper⟩
  · exact ⟨at?_merge_of_maps hupper hbelow habove, names_merge (hupper.inner_of_at? habove) below⟩
  · exact at?_merge_of_taken hupper hv hmaps
  · exact at?_merge_of_covers hupper h
  · exact at?_merge_of_kept hupper hnone hcovers

section Clashing

/-- A mapping with a group in which a number and a group stand. -/
def groupedBase : Entries :=
  [(.text "group", .map [(.text "a", .int 1), (.text "b", .map [(.text "x", .int 2)])]), (.text "n", .int 3)]

/-- A mapping with the same group, in which a text stands for the inner group and a group for the number. -/
def groupedUpper : Entries :=
  [(.text "m", .null), (.text "group", .map [(.text "b", .text "none"), (.text "a", .map [(.text "y", .int 4)])])]

theorem named_groupedBase : groupedBase.Named := by
  refine .cons (by decide) ?_ (.cons (by decide) (by simp) .nil)
  rintro _ ⟨⟩
  refine .cons (by decide) (by simp) (.cons (by decide) ?_ .nil)
  rintro _ ⟨⟩
  exact .cons (by decide) (by simp) .nil

theorem named_groupedUpper : groupedUpper.Named := by
  refine .cons (by decide) (by simp) (.cons (by decide) ?_ .nil)
  rintro _ ⟨⟩
  refine .cons (by decide) (by simp) (.cons (by decide) ?_ .nil)
  rintro _ ⟨⟩
  exact .cons (by decide) (by simp) .nil

theorem merge_at_every_path_grouped :
    groupedBase.Named ∧ groupedUpper.Named ∧
      (Value.map (groupedBase.merge groupedUpper)).at? ["group", "b"] = some (.text "none") ∧
      (Value.map (groupedBase.merge groupedUpper)).at? ["group", "b", "x"] = none ∧
      (groupedBase.merge groupedUpper).merge groupedUpper = groupedBase.merge groupedUpper := by
  obtain ⟨-, hpaths, -, -, -, hagain⟩ := merge_at_every_path named_groupedBase named_groupedUpper
  refine ⟨named_groupedBase, named_groupedUpper, hpaths.taken _ _ rfl (by simp [Value.isMap]), ?_, hagain⟩
  exact hpaths.covered _ ⟨["group", "b"], ["x"], .text "none", rfl, by simp, rfl, rfl⟩

end Clashing

end Entries

end CorpusShape
