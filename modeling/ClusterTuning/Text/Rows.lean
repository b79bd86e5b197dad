import ClusterTuning.Decimal.Layout
import ClusterTuning.Text.Pieces

/-!
# ClusterTuning.Text.Rows

**Tables as lines of text.**

A large table of numbers is kept as lines: a line holds rows with blanks between them, and a row holds
hexadecimal numbers with points between them.
-/

namespace ClusterTuning.Text

/-- The numbers of a row. What is no number counts as zero. -/
def readRow (row : List Char) : List Nat :=
  (splitAt '.' row).map fun number => (Decimal.readDigits? 16 number).getD 0

/-- The rows of a table. -/
def readRows (lines : List String) : List (List Nat) :=
  lines.flatMap fun line => (splitAt ' ' line.toList).map readRow

/-- A table of closed ranges. A row of one number is the range of that number alone. -/
def readRanges (lines : List String) : List (Nat × Nat) :=
  (readRows lines).filterMap fun
    | [only] => some (only, only)
    | [first, last] => some (first, last)
    | _ => none

/-- A table of numbers that each stand for those behind them in their row. -/
def readEntries (lines : List String) : List (Nat × List Nat) :=
  (readRows lines).filterMap fun
    | [] => none
    | number :: others => some (number, others)

end ClusterTuning.Text
