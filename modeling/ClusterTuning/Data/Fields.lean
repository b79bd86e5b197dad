import ClusterTuning.Text.Pieces

/-!
# ClusterTuning.Data.Fields

**Named entries in the order of their names.**

Objects, file sets, parameter assignments and labels are all read and printed in the order of their
names, each name once. They are kept as lists of pairs in that order, by the operations of this
module: `put` inserts at the place the order gives or replaces what is there, `erase` removes, and
`get?` looks up.
-/

namespace ClusterTuning.Fields

variable {α : Type}

/-- What is stored under `key`. -/
def get? (key : String) : List (String × α) → Option α
  | [] => none
  | (k, v) :: rest => if k = key then some v else get? key rest

/-- Store `value` under `key`, in place of what was stored there. -/
def put (key : String) (value : α) : List (String × α) → List (String × α)
  | [] => [(key, value)]
  | (k, v) :: rest =>
    if k = key then (key, value) :: rest
    else if Text.precedes key k then (key, value) :: (k, v) :: rest
    else (k, v) :: put key value rest

/-- Remove what is stored under `key`. -/
def erase (key : String) (fields : List (String × α)) : List (String × α) :=
  fields.filter fun field => field.1 ≠ key

/-- Is anything stored under `key`? -/
def has (key : String) (fields : List (String × α)) : Bool :=
  (get? key fields).isSome

/-- The entries of a list in the order of their names; of two entries with one name the later one
stays. -/
def ofList (entries : List (String × α)) : List (String × α) :=
  entries.foldl (fun fields entry => put entry.1 entry.2 fields) []

/-- Store every entry of `entries` in turn. -/
def putAll (fields entries : List (String × α)) : List (String × α) :=
  entries.foldl (fun fields entry => put entry.1 entry.2 fields) fields

/-- The names in order. -/
def names (fields : List (String × α)) : List String :=
  fields.map Prod.fst

@[simp] theorem get?_nil (key : String) : get? key ([] : List (String × α)) = none := rfl

theorem get?_put_self (key : String) (value : α) (fields : List (String × α)) :
    get? key (put key value fields) = some value := by
  induction fields with
  | nil => simp [put, get?]
  | cons field rest ih =>
    obtain ⟨k, v⟩ := field
    simp only [put]
    split
    · simp [get?]
    · split
      · simp [get?]
      · simp_all [get?]

theorem get?_put_of_ne {key other : String} (h : key ≠ other) (value : α)
    (fields : List (String × α)) : get? other (put key value fields) = get? other fields := by
  induction fields with
  | nil => simp [put, get?, h]
  | cons field rest ih =>
    obtain ⟨k, v⟩ := field
    simp only [put]
    split
    · rename_i hk
      subst hk
      simp [get?, h]
    · split
      · simp [get?, h]
      · simp [get?, ih]

/-- After a `put` every name but the one put holds what it held. -/
theorem get?_put (key other : String) (value : α) (fields : List (String × α)) :
    get? other (put key value fields) = if key = other then some value else get? other fields := by
  by_cases h : key = other
  · subst h
    simp [get?_put_self]
  · simp [get?_put_of_ne h, h]

theorem get?_erase (key other : String) (fields : List (String × α)) :
    get? other (erase key fields) = if key = other then none else get? other fields := by
  induction fields with
  | nil => simp [erase]
  | cons field rest ih =>
    obtain ⟨k, v⟩ := field
    by_cases hk : k = key
    · subst hk
      by_cases ho : k = other
      · simp_all [erase]
      · simp_all [erase, get?]
    · by_cases ho : key = other
      · subst ho
        simp_all [erase, get?]
      · simp_all [erase, get?]

end ClusterTuning.Fields
