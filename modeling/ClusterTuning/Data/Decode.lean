import ClusterTuning.Data.Mismatch

/-!
# ClusterTuning.Data.Decode

**From values to typed records.**

A record type is described once, by a `Schema` that names its fields in the order of declaration,
and is read from whatever offers the operations of `Source`: values, or nodes of a text in which the
kind of a scalar depends on the type that is asked for.

Two faults in one record are reported in a fixed order. A field that is there and does not fit comes
first, in the order of the names; a field that is not there comes after, in the order of
declaration.
-/

namespace ClusterTuning

/-- What decoding gives. -/
abbrev Decoded (α : Type) := Except Mismatch α

/-- The integer types of records. -/
inductive IntType where
  /-- Sixty-four bits with a sign. -/
  | signed
  /-- Sixty-four bits without a sign. -/
  | unsigned
deriving DecidableEq, Repr

/-- The word for an integer type. -/
def IntType.name : IntType → String
  | .signed => "i64"
  | .unsigned => "u64"

/-- Does the type hold the integer? -/
def IntType.holds (t : IntType) (n : Int) : Bool :=
  match t with
  | .signed => decide (-twoTo 63 ≤ n ∧ n < twoTo 63)
  | .unsigned => decide (0 ≤ n ∧ n < twoTo 64)

/-- Something that typed records can be read from. -/
class Source (σ : Type) where
  /-- A string. -/
  text : σ → Decoded String
  /-- An integer. -/
  integer : IntType → σ → Decoded Int
  /-- A truth value. -/
  flag : σ → Decoded Bool
  /-- The items of a list. -/
  items : σ → Decoded (List σ)
  /-- The entries of a record of the given description and known fields. -/
  entries : String → List String → σ → Decoded (List (String × σ))
  /-- The content, unless it is nothing. -/
  optional : σ → Decoded (Option σ)
  /-- A value of any kind. -/
  value : σ → Decoded Value
  /-- A value of any kind that is kept for a field the record does not know. -/
  kept : σ → Decoded Value

namespace Decode

variable {σ α β : Type}

/-! ### Reading fields -/

/-- How reading the fields of a record goes. -/
inductive Reading (α : Type) where
  /-- All fields fit. -/
  | done (a : α)
  /-- All fields that are there fit, and this is the first one that is not there. -/
  | missing (field : String)
  /-- These fields do not fit. -/
  | wrong (faults : List (String × Mismatch))

/-- Read on with further fields. Faults are gathered, and they outweigh missing fields. -/
def Reading.andThen : Reading (α → β) → Reading α → Reading β
  | .done f, .done a => .done (f a)
  | .wrong xs, .wrong ys => .wrong (xs ++ ys)
  | .wrong xs, _ => .wrong xs
  | _, .wrong ys => .wrong ys
  | .missing m, _ => .missing m
  | _, .missing m => .missing m

/-- The fault whose field comes first in `order`. -/
def firstFault (order : List String) (faults : List (String × Mismatch)) : Mismatch :=
  ((order.findSome? fun name => Fields.get? name faults).orElse fun _ =>
    (faults.head?.map Prod.snd)).getD .malformed

/-- The record, or the fault that is reported. -/
def Reading.conclude (order : List String) (missing : String → Mismatch) :
    Reading α → Decoded α
  | .done a => .ok a
  | .missing field => .error (missing field)
  | .wrong faults => .error (firstFault order faults)

/-- How to read a record from its fields. -/
structure Schema (σ α : Type) where
  /-- The names of the fields in the order of declaration. -/
  names : List String
  /-- Read the record, given the content of each field. -/
  read : (String → Option σ) → Reading α

namespace Schema

/-- A record without fields. -/
def of (a : α) : Schema σ α :=
  ⟨[], fun _ => .done a⟩

/-- Add a field. -/
def field (s : Schema σ (α → β)) (name : String) (decode : σ → Decoded α)
    (absent : Option α) : Schema σ β :=
  ⟨s.names ++ [name], fun content =>
    (s.read content).andThen <|
      match content name with
      | none =>
        match absent with
        | some a => .done a
        | none => .missing name
      | some v =>
        match decode v with
        | .ok a => .done a
        | .error e => .wrong [(name, e)]⟩

/-- Add a field that has to be there. -/
def required (s : Schema σ (α → β)) (name : String) (decode : σ → Decoded α) : Schema σ β :=
  s.field name decode none

/-- Add a field that has a default. -/
def withDefault (s : Schema σ (α → β)) (name : String) (decode : σ → Decoded α)
    (absent : α) : Schema σ β :=
  s.field name decode (some absent)

end Schema

/-- The description of a record type. -/
def recordName (name : String) : String :=
  "struct " ++ name

/-- The description of a record type that is given as a list. -/
def listName (name : String) (fields : Nat) : String :=
  recordName name ++ " with " ++ String.ofList (Decimal.natDigits fields) ++
    (if fields = 1 then " element" else " elements")

/-- A record that ignores unknown fields. It may also be given as the list of its fields. -/
def closedRecord (name : String) (schema : Schema Value α) : Value → Decoded α
  | .object fields =>
    (schema.read fun key => Fields.get? key fields).conclude (Fields.names fields) .missing
  | .array items =>
    let fields := schema.names.zip items
    let count := schema.names.length
    let short field := Mismatch.length (schema.names.idxOf field) (listName name count)
    match (schema.read fun key => Fields.get? key fields).conclude schema.names short with
    | .ok a =>
      if count < items.length then .error (.length items.length "fewer elements in array")
      else .ok a
    | .error e => .error e
  | v => .error (.kind v (recordName name))

/-- Values of fields that a record does not know. -/
def keptFields [Source σ] : List (String × σ) → Decoded (List (String × Value))
  | [] => .ok []
  | (key, v) :: rest =>
    match Source.kept v, keptFields rest with
    | .ok v, .ok rest => .ok ((key, v) :: rest)
    | .error e, _ => .error e
    | _, .error e => .error e

/-- A record that keeps unknown fields, in the order of their names. -/
def openRecord [Source σ] (name : String)
    (schema : Schema σ (List (String × Value) → α)) (v : σ) : Decoded α :=
  match Source.entries (recordName name) schema.names v with
  | .error e => .error e
  | .ok entries =>
    let content key := Fields.get? key entries
    match (schema.read content).conclude (Fields.names entries) .missing with
    | .error e => .error e
    | .ok record =>
      match keptFields (entries.filter fun entry => !schema.names.contains entry.1) with
      | .error e => .error e
      | .ok others => .ok (record (Fields.ofList others))

/-! ### Lists, options and words -/

/-- Decode items from the left. -/
def each (decode : σ → Decoded α) : List σ → Decoded (List α)
  | [] => .ok []
  | v :: rest =>
    match decode v with
    | .error e => .error e
    | .ok a =>
      match each decode rest with
      | .error e => .error e
      | .ok rest => .ok (a :: rest)

/-- A list. -/
def list [Source σ] (decode : σ → Decoded α) (v : σ) : Decoded (List α) :=
  match Source.items v with
  | .error e => .error e
  | .ok items => each decode items

/-- Something or nothing. -/
def option [Source σ] (decode : σ → Decoded α) (v : σ) : Decoded (Option α) :=
  match Source.optional v with
  | .error e => .error e
  | .ok none => .ok none
  | .ok (some v) =>
    match decode v with
    | .error e => .error e
    | .ok a => .ok (some a)

/-- Decode the content of entries from the left. -/
def eachEntry (decode : σ → Decoded α) : List (String × σ) → Decoded (List (String × α))
  | [] => .ok []
  | (key, v) :: rest =>
    match decode v with
    | .error e => .error e
    | .ok a =>
      match eachEntry decode rest with
      | .error e => .error e
      | .ok rest => .ok ((key, a) :: rest)

/-- Entries of any names, in the order of their names. -/
def dictionary (decode : Value → Decoded α) : Value → Decoded (List (String × α))
  | .object fields =>
    match eachEntry decode fields with
    | .error e => .error e
    | .ok entries => .ok (Fields.ofList entries)
  | v => .error (.kind v "a map")

/-- One of some words: a string, or an object of one field that holds nothing. -/
def word (pick : String → Decoded α) : Value → Decoded α
  | .string s => pick s
  | .object [(key, v)] =>
    match pick key with
    | .error e => .error e
    | .ok a => if v.isNull then .ok a else .error (.kind v "unit")
  | .object fields => .error (.range (.object fields) "map with a single key")
  | v => .error (.kind v "string or map")

end Decode

/-! ### Values as a source -/

namespace Value

/-- A string. -/
def decodeText : Value → Decoded String
  | .string s => .ok s
  | v => .error (.kind v "a string")

/-- An integer of the given type. -/
def decodeInteger (t : IntType) : Value → Decoded Int
  | .number (.int n) => if t.holds n then .ok n else .error (.range (.number (.int n)) t.name)
  | v => .error (.kind v t.name)

/-- A truth value. -/
def decodeFlag : Value → Decoded Bool
  | .bool b => .ok b
  | v => .error (.kind v "a boolean")

/-- The items of a list. -/
def decodeItems : Value → Decoded (List Value)
  | .array items => .ok items
  | v => .error (.kind v "a sequence")

/-- The fields of a record. -/
def decodeEntries (expected : String) : Value → Decoded (List (String × Value))
  | .object fields => .ok fields
  | v => .error (.kind v expected)

/-- The value, unless it is nothing. -/
def decodeOptional : Value → Decoded (Option Value)
  | .null => .ok none
  | v => .ok (some v)

end Value

instance : Source Value where
  text := Value.decodeText
  integer := Value.decodeInteger
  flag := Value.decodeFlag
  items := Value.decodeItems
  entries expected _ := Value.decodeEntries expected
  optional := Value.decodeOptional
  value := .ok
  kept := .ok

end ClusterTuning
