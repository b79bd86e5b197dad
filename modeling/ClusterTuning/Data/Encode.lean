import ClusterTuning.Data.Value

/-!
# ClusterTuning.Data.Encode

**From typed records to fields.**

A record is written as its fields in the order of declaration, the unknown ones last. Some fields
are left out when they hold nothing; each way of writing a field is a function of its own, so that
the encoding of a record is the concatenation of its fields.
-/

namespace ClusterTuning.Encode

/-- A field. -/
def field (name : String) (v : Value) : List (String × Value) :=
  [(name, v)]

/-- A field that is left out when it holds nothing. -/
def optional {α : Type} (name : String) (encode : α → Value) : Option α → List (String × Value)
  | none => []
  | some a => [(name, encode a)]

/-- A field that is left out when its text is empty. -/
def nonEmptyText (name text : String) : List (String × Value) :=
  if text = "" then [] else [(name, .string text)]

/-- A list. -/
def list {α : Type} (encode : α → Value) (items : List α) : Value :=
  .array (items.map encode)

/-- A field that is left out when its list is empty. -/
def nonEmptyList {α : Type} (name : String) (encode : α → Value) :
    List α → List (String × Value)
  | [] => []
  | items => [(name, list encode items)]

/-- Entries whose contents are texts. -/
def texts (entries : List (String × String)) : Value :=
  .object (entries.map fun entry => (entry.1, .string entry.2))

end ClusterTuning.Encode
