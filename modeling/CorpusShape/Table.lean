/-!
# Tables

A table is a list of named values, each name at most once, in the order in which the names were first
put in. Putting a name again replaces its value and keeps its place.
-/
namespace CorpusShape

/-- Named values, in the order of their first insertion. -/
abbrev Table (α : Type) := List (String × α)

namespace Table

variable {α : Type}

/-- The value of `name`. -/
def get? (t : Table α) (name : String) : Option α :=
  match t with
  | [] => none
  | (k, v) :: rest => if k = name then some v else get? rest name

/-- Gives `name` the value `value`, in place if the name is there already. -/
def put (t : Table α) (name : String) (value : α) : Table α :=
  match t with
  | [] => [(name, value)]
  | (k, v) :: rest => if k = name then (k, value) :: rest else (k, v) :: put rest name value

/-- The table without `name`. -/
def erase (t : Table α) (name : String) : Table α :=
  match t with
  | [] => []
  | (k, v) :: rest => if k = name then rest else (k, v) :: erase rest name

def keys (t : Table α) : List String := t.map (·.1)

def contains (t : Table α) (name : String) : Bool := (t.get? name).isSome

/-- The table of a list of pairs, later pairs replacing earlier ones of the same name. -/
def ofPairs (pairs : List (String × α)) : Table α :=
  pairs.foldl (fun t p => t.put p.1 p.2) []

@[simp] theorem get?_nil (name : String) : get? ([] : Table α) name = none := rfl

@[simp] theorem get?_put_self (t : Table α) (name : String) (value : α) :
    (t.put name value).get? name = some value := by
  induction t with
  | nil => simp [put, get?]
  | cons p rest ih =>
    by_cases h : p.1 = name
    · simp [put, get?, h]
    · simp [put, get?, h, ih]

theorem get?_put_of_ne (t : Table α) {name other : String} (value : α) (h : name ≠ other) :
    (t.put name value).get? other = t.get? other := by
  induction t with
  | nil => simp [put, get?, h]
  | cons p rest ih =>
    by_cases hp : p.1 = name
    · have hne : p.1 ≠ other := hp ▸ h
      simp [put, get?, hp, h]
    · simp [put, get?, hp, ih]

theorem mem_keys_of_get? {t : Table α} {name : String} {value : α} (h : t.get? name = some value) :
    name ∈ t.keys := by
  induction t with
  | nil => simp at h
  | cons p rest ih =>
    by_cases hp : p.1 = name
    · simp [keys, hp]
    · have hrest : name ∈ keys rest := ih (by simpa [get?, hp] using h)
      exact List.mem_cons_of_mem _ hrest

end Table

/-- The distinct names of a list, by code points. -/
def sortedNames (names : List String) : List String :=
  (names.mergeSort fun a b => decide (a ≤ b)).eraseDups

end CorpusShape
