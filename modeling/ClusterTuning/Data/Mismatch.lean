import ClusterTuning.Data.Value
import ClusterTuning.Json.Writer
import ClusterTuning.Text.Quoted

/-!
# ClusterTuning.Data.Mismatch

**Why a value does not fit a type, and how that is said.**
-/

namespace ClusterTuning

/-- Why a value does not fit a type. -/
inductive Mismatch where
  /-- A value of another kind. -/
  | kind (found : Value) (expected : String)
  /-- A value of the right kind that is out of range. -/
  | range (found : Value) (expected : String)
  /-- A field that has to be there is not. -/
  | missing (field : String)
  /-- A word that is none of the known ones. -/
  | word (found : String) (known : List String)
  /-- A list of the wrong length in place of a record. -/
  | length (found : Nat) (expected : String)
  /-- Text that does not have the form of the type. -/
  | malformed
deriving Repr, Inhabited

/-- What was found, in the words of a message. -/
def Value.described : Value → String
  | .null => "null"
  | .bool b => "boolean `" ++ (if b then "true" else "false") ++ "`"
  | .number (.int n) => "integer `" ++ String.ofList (Decimal.intChars n) ++ "`"
  | .number (.double x) => "floating point `" ++ String.ofList (Json.numberLayout.print x) ++ "`"
  | .string s => "string " ++ Text.quote s
  | .array _ => "sequence"
  | .object _ => "map"

/-- Words in backticks. -/
def ticked (word : String) : String :=
  "`" ++ word ++ "`"

/-- The known words, in the words of a message. -/
def describeKnown : List String → String
  | [] => "there are no variants"
  | [a] => "expected " ++ ticked a
  | [a, b] => "expected " ++ ticked a ++ " or " ++ ticked b
  | words => "expected one of " ++ Text.joinStrings ", " (words.map ticked)

/-- The message for a mismatch. -/
def Mismatch.message : Mismatch → String
  | .kind found expected => "invalid type: " ++ found.described ++ ", expected " ++ expected
  | .range found expected => "invalid value: " ++ found.described ++ ", expected " ++ expected
  | .missing field => "missing field " ++ ticked field
  | .word found known => "unknown variant " ++ ticked found ++ ", " ++ describeKnown known
  | .length found expected =>
    "invalid length " ++ String.ofList (Decimal.natDigits found) ++ ", expected " ++ expected
  | .malformed => "malformed text"

end ClusterTuning
