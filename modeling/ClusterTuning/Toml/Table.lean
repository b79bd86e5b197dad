import ClusterTuning.Data.Value

/-!
# ClusterTuning.Toml.Table

**Tables of TOML while they are being written down.**

A table can be mentioned in several ways, and each way allows other additions later on: a header
defines a table once, a header of a table below it leaves it open for its own header, a dotted key
can only go on in a table that dotted keys began, and what stands in braces is closed.
-/

namespace ClusterTuning.Toml

/-- How a table came to be. -/
inductive Origin where
  /-- The header of a table below it mentions it. -/
  | implied
  /-- A dotted key mentions it. -/
  | dotted
  /-- A header defines it. -/
  | header
  /-- It stands in braces. -/
  | braces
deriving DecidableEq, Repr

/-- What a name stands for in a table. -/
inductive Entry where
  /-- A value that cannot be extended. -/
  | value (v : Value)
  /-- A table. -/
  | table (origin : Origin) (entries : List (String × Entry))
  /-- Tables with a header each, the last one first. -/
  | tables (last : List (String × Entry)) (before : List (List (String × Entry)))

/-- A table. -/
structure Table where
  /-- How it came to be. -/
  origin : Origin
  /-- What its names stand for. -/
  entries : List (String × Entry)

namespace Table

/-- A table without entries. -/
def empty (origin : Origin) : Table :=
  ⟨origin, []⟩

/-- The table with a name that stands for `entry`. -/
def put (t : Table) (key : String) (entry : Entry) : Table :=
  { t with entries := Fields.put key entry t.entries }

/-- Change the table at the end of a path. Tables that are missing on the way are made. What dotted
keys go through must not be defined by a header. -/
def change (dotted : Bool) (act : Table → Option Table) : List String → Table → Option Table
  | [], t => act t
  | key :: path, t =>
    match Fields.get? key t.entries with
    | none =>
      (change dotted act path (empty (if dotted then .dotted else .implied))).map fun inner =>
        t.put key (.table inner.origin inner.entries)
    | some (.table origin entries) =>
      if origin = .braces ∨ (dotted = true ∧ origin = .header) then none
      else
        (change dotted act path ⟨origin, entries⟩).map fun inner =>
          t.put key (.table inner.origin inner.entries)
    | some (.tables last before) =>
      (change dotted act path ⟨.header, last⟩).map fun inner =>
        t.put key (.tables inner.entries before)
    | some (.value _) => none

/-- Define the table of a header. -/
def define (key : String) (t : Table) : Option Table :=
  match Fields.get? key t.entries with
  | none => some (t.put key (.table .header []))
  | some (.table .implied entries) => some (t.put key (.table .header entries))
  | some _ => none

/-- Define one more of the tables of a repeated header. -/
def defineNext (key : String) (t : Table) : Option Table :=
  match Fields.get? key t.entries with
  | none => some (t.put key (.tables [] []))
  | some (.tables last before) => some (t.put key (.tables [] (last :: before)))
  | some _ => none

/-- Let a name stand for an entry, once. Only dotted keys add to a table that dotted keys began. -/
def add (dotted : Bool) (key : String) (entry : Entry) (t : Table) : Option Table :=
  if decide (t.origin = .dotted) ≠ dotted then none
  else if (Fields.get? key t.entries).isSome then none
  else some (t.put key entry)

end Table

/-! ### Values of tables -/

mutual

/-- What a name stands for, as a value. -/
def Entry.toValue : Entry → Value
  | .value v => v
  | .table _ entries => .object (entryFields entries)
  | .tables last before => .array (tableValues before [.object (entryFields last)])

/-- Entries as fields. -/
def entryFields : List (String × Entry) → List (String × Value)
  | [] => []
  | (key, entry) :: rest => (key, entry.toValue) :: entryFields rest

/-- Tables as values, in front of those that follow. -/
def tableValues : List (List (String × Entry)) → List Value → List Value
  | [], after => after
  | entries :: before, after => tableValues before (.object (entryFields entries) :: after)

end

/-- A table as a value. -/
def Table.toValue (t : Table) : Value :=
  .object (entryFields t.entries)

end ClusterTuning.Toml
