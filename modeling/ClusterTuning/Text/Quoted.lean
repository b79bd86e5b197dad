import ClusterTuning.Text.Printable

/-!
# ClusterTuning.Text.Quoted

**Text in double quotes, with escapes for what would not show.**

Messages print names in this form, so that a blank or a control character inside a name can be seen.
A quote and a backslash are escaped, the usual controls by their letter, and every other character
that does not print as itself by its code point. A single quote stays, as it needs no escape between
double quotes.
-/

namespace ClusterTuning.Text

/-- The digits of `n` in lower-case hexadecimal. -/
def hexDigits (n : Nat) : List Char :=
  Nat.toDigits 16 n

/-- One character inside double quotes. -/
def escapeChar (c : Char) : List Char :=
  if c = '"' then ['\\', '"']
  else if c = '\\' then ['\\', '\\']
  else if c = '\n' then ['\\', 'n']
  else if c = '\t' then ['\\', 't']
  else if c = '\r' then ['\\', 'r']
  else if c.toNat = 0 then ['\\', '0']
  else if isPrintable c && !isExtender c then [c]
  else ['\\', 'u', '{'] ++ hexDigits c.toNat ++ ['}']

/-- The text between double quotes. -/
def quoteChars (s : List Char) : List Char :=
  '"' :: (s.flatMap escapeChar ++ ['"'])

/-- The string between double quotes. -/
def quote (s : String) : String :=
  String.ofList (quoteChars s.toList)

end ClusterTuning.Text
