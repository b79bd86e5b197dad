import ClusterTuning.Decimal.Layout
import ClusterTuning.Text.Utf8

/-!
# ClusterTuning.Web.Percent

**Bytes behind percent signs.**

A character that cannot stand in its place of an address is written as its bytes, each as a percent
sign and two digits. Each place of an address has its own characters that are written so.
-/

namespace ClusterTuning.Web

/-! ### Bytes -/

/-- A digit of a byte behind a percent sign. -/
def upperHex (n : Nat) : Char :=
  Char.ofNat (if n < 10 then 0x30 + n else 0x41 + (n - 10))

/-- A byte behind a percent sign. -/
def percentByte (b : UInt8) : List Char :=
  ['%', upperHex (b.toNat / 16), upperHex (b.toNat % 16)]

/-- Write the characters of `reserved` as bytes behind percent signs. -/
def percentEncode (reserved : Char → Bool) (s : List Char) : List Char :=
  s.flatMap fun c =>
    if reserved c then (Text.encode (String.singleton c)).flatMap percentByte else [c]

/-- The bytes of text in which percent signs stand before digits of bytes. -/
def percentBytes : List Char → Bytes
  | '%' :: a :: b :: rest =>
    match Decimal.readDigits? 16 [a, b] with
    | some n => UInt8.ofNat n :: percentBytes rest
    | none => Text.encode "%" ++ percentBytes (a :: b :: rest)
  | c :: rest => Text.encode (String.singleton c) ++ percentBytes rest
  | [] => []

/-- The text whose bytes stand behind percent signs, if they are those of a text. -/
def percentDecode? (s : List Char) : Option (List Char) :=
  Text.decode? (percentBytes s)

/-! ### Places -/

/-- The characters that stand for themselves nowhere. -/
def isForeign (c : Char) : Bool :=
  c.toNat ≤ 0x1F || 0x7E < c.toNat

/-- The characters that do not stand for themselves in a fragment. -/
def isReservedInFragment (c : Char) : Bool :=
  isForeign c || c == ' ' || c == '"' || c == '<' || c == '>' || c == Char.ofNat 0x60

/-- The characters that do not stand for themselves in a query. -/
def isReservedInQuery (special : Bool) (c : Char) : Bool :=
  isForeign c || c == ' ' || c == '"' || c == '#' || c == '<' || c == '>' ||
    (special && c == '\'')

/-- The characters that do not stand for themselves in a path. -/
def isReservedInPath (c : Char) : Bool :=
  isReservedInFragment c || c == '?' || c == '#' || c == '\x7b' || c == '\x7d'

/-- The characters that do not stand for themselves in the name of a user. -/
def isReservedInUser (c : Char) : Bool :=
  isReservedInPath c || ['/', ':', ';', '=', '@', '[', '\\', ']', '^', '|'].contains c

end ClusterTuning.Web
