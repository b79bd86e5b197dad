/-!
# ClusterTuning.Text.Blank

**Which characters count as blank, and how text loses the blanks at its ends.**

Two classes are in use and they differ. Input that is checked for content counts the five ASCII
blanks only (so a vertical tab or a no-break space is content), while names and rendered text are
trimmed by the Unicode property `White_Space`.

Text is handled as `List Char` throughout this folder: every operation is then a recursion on the
data, and a caller converts from `String` once at its own border.
-/

namespace ClusterTuning.Text

/-- The five ASCII blanks: space, tab, line feed, form feed and carriage return. -/
def isAsciiBlank (c : Char) : Bool :=
  c == ' ' || c == '\t' || c == '\n' || c == '\x0c' || c == '\r'

/-- The Unicode property `White_Space`, which holds of twenty-five characters. -/
def isBlank (c : Char) : Bool :=
  let n := c.toNat
  (9 ≤ n && n ≤ 13) || n == 0x20 || n == 0x85 || n == 0xA0 || n == 0x1680 ||
    (0x2000 ≤ n && n ≤ 0x200A) || n == 0x2028 || n == 0x2029 || n == 0x202F || n == 0x205F ||
    n == 0x3000

/-- Drop the characters in `p` from the end. -/
def dropEndWhile (p : Char → Bool) (s : List Char) : List Char :=
  (s.reverse.dropWhile p).reverse

/-- Drop the characters in `p` from both ends. -/
def trimWhile (p : Char → Bool) (s : List Char) : List Char :=
  dropEndWhile p (s.dropWhile p)

/-- Drop the blanks from both ends. -/
def trim (s : List Char) : List Char :=
  trimWhile isBlank s

/-- Trim a string by the Unicode blanks. -/
def trimmed (s : String) : String :=
  String.ofList (trim s.toList)

@[simp] theorem dropEndWhile_nil (p : Char → Bool) : dropEndWhile p [] = [] := rfl

end ClusterTuning.Text
