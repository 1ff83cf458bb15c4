/-!
# Named entries

Objects, identifiers, declared ranges and files are lists of names with values. A name is looked up
at its first entry; putting a value under a name keeps the order of the names.
-/

namespace RowTriples

/-- Values under names, in order. -/
abbrev Entries (α : Type) := List (String × α)

namespace Entries

variable {α : Type}

/-- The value of the first entry called `name`. -/
def get? (name : String) : Entries α → Option α
  | [] => none
  | (key, value) :: entries => if key = name then some value else get? name entries

/-- The entries with `value` under `name`: where the name stands if it is there, else at the
end. -/
def put (name : String) (value : α) : Entries α → Entries α
  | [] => [(name, value)]
  | (key, old) :: entries =>
    if key = name then (key, value) :: entries else (key, old) :: put name value entries

/-- The entries of a list in which a repeated name keeps its first place and its last value. -/
def ofList (entries : List (String × α)) : Entries α :=
  entries.foldl (fun acc (name, value) => put name value acc) []

def names (entries : Entries α) : List String :=
  entries.map Prod.fst

def has (name : String) (entries : Entries α) : Bool :=
  (get? name entries).isSome

@[simp] theorem get?_nil (name : String) : get? name ([] : Entries α) = none := rfl

@[simp] theorem put_nil (name : String) (value : α) : put name value [] = [(name, value)] := rfl

theorem get?_put (name other : String) (value : α) (entries : Entries α) :
    get? other (put name value entries) = if name = other then some value
      else get? other entries := by
  induction entries with
  | nil => by_cases h : name = other <;> simp [get?, h]
  | cons e entries ih =>
    obtain ⟨key, old⟩ := e
    by_cases hk : key = name <;> by_cases ho : name = other <;> simp_all [get?, put]

theorem get?_put_self (name : String) (value : α) (entries : Entries α) :
    get? name (put name value entries) = some value := by
  rw [get?_put, if_pos rfl]

/-- Putting a value keeps the names in order and adds at most the new one at the end. -/
theorem names_put (name : String) (value : α) (entries : Entries α) :
    names (put name value entries) =
      if name ∈ names entries then names entries else names entries ++ [name] := by
  induction entries with
  | nil => simp [names]
  | cons e entries ih =>
    obtain ⟨key, old⟩ := e
    by_cases hk : key = name
    · simp [put, hk, names]
    · simp only [put, hk, ↓reduceIte, names, List.map_cons, List.mem_cons, Ne.symm hk, false_or]
      rw [names, names] at ih
      rw [ih]
      split <;> simp

theorem get?_isSome_iff {name : String} {entries : Entries α} :
    (get? name entries).isSome = true ↔ name ∈ names entries := by
  induction entries with
  | nil => simp [names]
  | cons e entries ih =>
    obtain ⟨key, old⟩ := e
    by_cases hk : key = name
    · simp [get?, names, hk]
    · simp only [get?, hk, ↓reduceIte, ih, names, List.map_cons, List.mem_cons, Ne.symm hk,
        false_or]

theorem get?_eq_none_iff {name : String} {entries : Entries α} :
    get? name entries = none ↔ name ∉ names entries := by
  rw [← get?_isSome_iff, Option.not_isSome_iff_eq_none]

theorem mem_names_of_get? {name : String} {value : α} {entries : Entries α}
    (found : get? name entries = some value) : name ∈ names entries :=
  get?_isSome_iff.mp (by rw [found]; rfl)

theorem exists_get?_of_mem {name : String} {entries : Entries α} (known : name ∈ names entries) :
    ∃ value, get? name entries = some value :=
  Option.isSome_iff_exists.mp (get?_isSome_iff.mpr known)

theorem mem_of_get? {name : String} {value : α} {entries : Entries α}
    (found : get? name entries = some value) : (name, value) ∈ entries := by
  induction entries with
  | nil => cases found
  | cons entry entries ih =>
      obtain ⟨key, other⟩ := entry
      rw [get?] at found
      split at found
      next same =>
        cases found
        rw [same]
        exact List.mem_cons_self
      next => exact List.mem_cons_of_mem _ (ih found)

theorem get?_of_mem {name : String} {value : α} {entries : Entries α}
    (unique : (names entries).Nodup) (member : (name, value) ∈ entries) :
    get? name entries = some value := by
  induction entries with
  | nil => cases member
  | cons entry entries ih =>
      obtain ⟨key, other⟩ := entry
      obtain ⟨fresh, unique⟩ := List.nodup_cons.mp unique
      rw [get?]
      rcases List.mem_cons.mp member with same | member
      · cases same
        exact if_pos rfl
      · have differs : key ≠ name := by
          rintro rfl
          exact fresh (List.mem_map.mpr ⟨_, member, rfl⟩)
        rw [if_neg differs]
        exact ih unique member

theorem has_iff {name : String} {entries : Entries α} :
    has name entries = true ↔ name ∈ names entries :=
  get?_isSome_iff

end Entries

end RowTriples
