import ClusterTuning.Data.Fields
import ClusterTuning.Decimal.Double

/-!
# ClusterTuning.Data.Value

**The value of a document: what manifests, patches, templates and remote answers are made of.**

Documents of any shape pass through, so the value type is dynamic. An object is a list of fields. A
value that was read holds each name once and in order (`canonical` brings any value to that form); a
value that is about to be printed may keep its fields in the order in which they were declared.
-/

namespace ClusterTuning

/-- A number of a document. An integer is one that fits 64 bits, with or without a sign. -/
inductive Number where
  /-- An integer from `-2^63` to `2^64 - 1`. -/
  | int (n : Int)
  /-- Any other number, rounded to binary64. -/
  | double (x : Double)
deriving DecidableEq, Repr, Inhabited

/-- The integer itself where it fits, and the nearest binary64 number where it does not. -/
def Number.ofInt (n : Int) : Number :=
  if -twoTo 63 ≤ n ∧ n < twoTo 64 then .int n else .double (Double.ofInt n)

/-- The binary64 number nearest to the number. -/
def Number.toDouble : Number → Double
  | .int n => Double.ofInt n
  | .double x => x

/-- The value of a document or of a part of one. -/
inductive Value where
  /-- Nothing. -/
  | null
  /-- A truth value. -/
  | bool (b : Bool)
  /-- A number. -/
  | number (n : Number)
  /-- Text. -/
  | string (s : String)
  /-- Values in order. -/
  | array (items : List Value)
  /-- Values by name. -/
  | object (fields : List (String × Value))
deriving Repr, Inhabited

namespace Value

/-- An integer as a value. -/
def ofInt (n : Int) : Value :=
  .number (.ofInt n)

/-- A natural number as a value. -/
def ofNat (n : Nat) : Value :=
  .number (.ofInt n)

/-- Strings as a value. -/
def ofStrings (texts : List String) : Value :=
  .array (texts.map .string)

/-- What an object holds under a name. Other values hold nothing. -/
def get? (key : String) : Value → Option Value
  | .object fields => Fields.get? key fields
  | _ => none

/-- The text, of a string. -/
def text? : Value → Option String
  | .string s => some s
  | _ => none

/-- The fields, of an object. -/
def fields? : Value → Option (List (String × Value))
  | .object fields => some fields
  | _ => none

/-- Is it nothing? -/
def isNull : Value → Bool
  | .null => true
  | _ => false

/-- Is it an object? -/
def isObject : Value → Bool
  | .object _ => true
  | _ => false

/-- The word for the kind of a value. -/
def kindName : Value → String
  | .null => "null"
  | .bool _ => "boolean"
  | .number _ => "number"
  | .string _ => "string"
  | .array _ => "array"
  | .object _ => "object"

mutual

/-- Are two values the same? -/
def same : Value → Value → Bool
  | .null, .null => true
  | .bool a, .bool b => a == b
  | .number a, .number b => a == b
  | .string a, .string b => a == b
  | .array a, .array b => sameItems a b
  | .object a, .object b => sameFields a b
  | _, _ => false

/-- Are the items of two lists the same? -/
def sameItems : List Value → List Value → Bool
  | [], [] => true
  | v :: rest, w :: others => same v w && sameItems rest others
  | _, _ => false

/-- Are the fields of two lists the same? -/
def sameFields : List (String × Value) → List (String × Value) → Bool
  | [], [] => true
  | (key, v) :: rest, (name, w) :: others => key == name && same v w && sameFields rest others
  | _, _ => false

end

mutual

theorem same_iff : ∀ v w : Value, same v w = true ↔ v = w
  | .array items, w => by cases w <;> simp [same, sameItems_iff items]
  | .object fields, w => by cases w <;> simp [same, sameFields_iff fields]
  | .null, w | .bool _, w | .number _, w | .string _, w => by cases w <;> simp [same]

theorem sameItems_iff : ∀ items others : List Value, sameItems items others = true ↔ items = others
  | [], others => by cases others <;> simp [sameItems]
  | v :: rest, others => by cases others <;> simp [sameItems, same_iff v, sameItems_iff rest]

theorem sameFields_iff : ∀ fields others : List (String × Value),
    sameFields fields others = true ↔ fields = others
  | [], others => by cases others <;> simp [sameFields]
  | (key, v) :: rest, others => by
    rcases others with _ | ⟨⟨name, w⟩, others⟩
    · simp [sameFields]
    · simp [sameFields, same_iff v, sameFields_iff rest, and_assoc]

end

instance : DecidableEq Value := fun v w => decidable_of_iff _ (same_iff v w)

mutual

/-- The value with the fields of every object in the order of their names, each name once. -/
def canonical : Value → Value
  | .array items => .array (canonicalItems items)
  | .object fields => .object (Fields.ofList (canonicalFields fields))
  | v => v

/-- Items in canonical form. -/
def canonicalItems : List Value → List Value
  | [] => []
  | v :: rest => canonical v :: canonicalItems rest

/-- The values of fields in canonical form. -/
def canonicalFields : List (String × Value) → List (String × Value)
  | [] => []
  | (k, v) :: rest => (k, canonical v) :: canonicalFields rest

end

@[simp] theorem get?_object (key : String) (fields : List (String × Value)) :
    get? key (.object fields) = Fields.get? key fields := rfl

@[simp] theorem text?_string (s : String) : text? (.string s) = some s := rfl

theorem text?_eq_some_iff {v : Value} {s : String} : v.text? = some s ↔ v = .string s := by
  cases v <;> simp [text?]

end Value

end ClusterTuning
