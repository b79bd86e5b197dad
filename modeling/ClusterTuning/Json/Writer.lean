import ClusterTuning.Data.Value
import ClusterTuning.Decimal.Layout

/-!
# ClusterTuning.Json.Writer

**Writing values as JSON text, without blanks.**

Fields are written in the order in which the value holds them. In strings only the quote, the
backslash and the control characters below U+0020 are escaped.
-/

namespace ClusterTuning.Json

/-- Numbers have a plain point up to sixteen digits before it and four zeros behind it, and a
positive exponent has a sign. -/
def numberLayout : Decimal.Layout := ⟨-4, 16, true⟩

/-- The text of a number. -/
def writeNumber : Number → List Char
  | .int n => Decimal.intChars n
  | .double x => if x.isFinite then numberLayout.print x else ['n', 'u', 'l', 'l']

/-- Two hexadecimal digits in lower case. -/
def twoHexDigits (n : Nat) : List Char :=
  [Nat.digitChar (n / 16 % 16), Nat.digitChar (n % 16)]

/-- One character inside a string. -/
def escapeChar (c : Char) : List Char :=
  if c = '"' then ['\\', '"']
  else if c = '\\' then ['\\', '\\']
  else if c = '\x08' then ['\\', 'b']
  else if c = '\x0c' then ['\\', 'f']
  else if c = '\n' then ['\\', 'n']
  else if c = '\r' then ['\\', 'r']
  else if c = '\t' then ['\\', 't']
  else if c.toNat < 0x20 then ['\\', 'u', '0', '0'] ++ twoHexDigits c.toNat
  else [c]

/-- A string between its quotes. -/
def writeString (s : String) : List Char :=
  '"' :: (s.toList.flatMap escapeChar ++ ['"'])

mutual

/-- The text of a value. -/
def writeChars : Value → List Char
  | .null => ['n', 'u', 'l', 'l']
  | .bool true => ['t', 'r', 'u', 'e']
  | .bool false => ['f', 'a', 'l', 's', 'e']
  | .number n => writeNumber n
  | .string s => writeString s
  | .array items => '[' :: (writeItems items ++ [']'])
  | .object fields => '{' :: (writeFields fields ++ ['}'])

/-- Items with commas between them. -/
def writeItems : List Value → List Char
  | [] => []
  | [v] => writeChars v
  | v :: rest => writeChars v ++ ',' :: writeItems rest

/-- Fields with commas between them. -/
def writeFields : List (String × Value) → List Char
  | [] => []
  | [(k, v)] => writeString k ++ ':' :: writeChars v
  | (k, v) :: rest => writeString k ++ ':' :: (writeChars v ++ ',' :: writeFields rest)

end

/-- A value as JSON text. -/
def write (v : Value) : String :=
  String.ofList (writeChars v)

end ClusterTuning.Json
