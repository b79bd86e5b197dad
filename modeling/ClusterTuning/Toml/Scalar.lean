import ClusterTuning.Data.Value
import ClusterTuning.Decimal.Layout
import ClusterTuning.Text.Pieces

/-!
# ClusterTuning.Toml.Scalar

**Unquoted values of TOML: truth values, numbers, dates and times.**

An underscore may stand between two digits and only there. A decimal number does not start with a
zero that further digits follow, and only decimal numbers have a sign. Numbers that no integer type
or no binary64 number holds are refused.
-/

namespace ClusterTuning.Toml

/-- The digits of a number without the underscores between them. -/
def digits? (base : Nat) (s : List Char) : Option (List Char) :=
  let groups := Text.splitAt '_' s
  if groups.all fun group => (Decimal.readDigits? base group).isSome then some groups.flatten
  else none

/-- The digits before a point: no zero is followed by further digits. -/
def wholeDigits? (s : List Char) : Option (List Char) :=
  (digits? 10 s).filter fun digits => digits.length == 1 || digits.head? != some '0'

/-- A sign, and what follows it. -/
def takeSign : List Char → Bool × List Char
  | '-' :: s => (true, s)
  | '+' :: s => (false, s)
  | s => (false, s)

/-- The base that a number names in front of its digits. -/
def baseOf? : Char → Option Nat
  | 'x' => some 16
  | 'o' => some 8
  | 'b' => some 2
  | _ => none

/-- The integers that are read at all. -/
def fitsWide (n : Int) : Bool :=
  -twoTo 127 ≤ n && n < twoTo 128

/-- A number that names its base. -/
def basedInteger? : List Char → Option Nat
  | '0' :: c :: s =>
    (baseOf? c).bind fun base => (digits? base s).bind fun digits => Decimal.readDigits? base digits
  | _ => none

/-- A decimal integer. -/
def decimalInteger? (s : List Char) : Option Int :=
  let (negative, s) := takeSign s
  (wholeDigits? s).bind fun digits =>
    (Decimal.readDigits? 10 digits).map fun n => if negative then -(n : Int) else n

/-- An integer. -/
def integer? (s : List Char) : Option Value :=
  let n : Option Int := match basedInteger? s with
    | some n => some n
    | none => decimalInteger? s
  (n.filter fitsWide).map Value.ofInt

/-- The digits behind the `e` of a number, with their sign. -/
def exponentChars? (s : List Char) : Option (List Char) :=
  let (negative, s) := takeSign s
  (digits? 10 s).map fun digits => if negative then 'e' :: '-' :: digits else 'e' :: digits

/-- The digits behind the point of a number, and its exponent. -/
def fractionChars? (s : List Char) : Option (List Char) :=
  let isMark c := c == 'e' || c == 'E'
  match digits? 10 (s.takeWhile fun c => !isMark c), s.dropWhile fun c => !isMark c with
  | some fraction, [] => some ('.' :: fraction)
  | some fraction, _ :: exponent => (exponentChars? exponent).map fun e => '.' :: fraction ++ e
  | none, _ => none

/-- A decimal number with a fraction, an exponent or both, without underscores. -/
def plainDecimal? (s : List Char) : Option (List Char) :=
  let isWhole c := Decimal.isDigit c || c == '_'
  match wholeDigits? (s.takeWhile isWhole), s.dropWhile isWhole with
  | some whole, '.' :: r => (fractionChars? r).map (whole ++ ·)
  | some whole, c :: r =>
    if c = 'e' ∨ c = 'E' then (exponentChars? r).map (whole ++ ·) else none
  | _, _ => none

/-- A number with a fraction or an exponent, an infinity, or what is no number. -/
def float? (s : List Char) : Option Value :=
  let (negative, s) := takeSign s
  let x : Option Double :=
    if s = "inf".toList then some (Double.infinity negative)
    else if s = "nan".toList then some Double.nan
    else
      ((plainDecimal? s).bind fun plain => Decimal.readUnsigned? negative plain).filter
        Double.isFinite
  x.map fun x => .number (.double x)

/-! ### Dates and times -/

/-- Two digits that make a number from `low` to `high`, and what follows them. -/
def twoDigits? (low high : Nat) : List Char → Option (Nat × List Char)
  | a :: b :: s =>
    ((Decimal.readDigits? 10 [a, b]).filter fun n => low ≤ n && n ≤ high).map (·, s)
  | _ => none

/-- The number of days in a month. -/
def daysIn (year month : Nat) : Nat :=
  if month = 2 then
    if year % 4 = 0 ∧ (year % 100 ≠ 0 ∨ year % 400 = 0) then 29 else 28
  else if month = 4 ∨ month = 6 ∨ month = 9 ∨ month = 11 then 30
  else 31

/-- What follows a date. -/
def skipDate? : List Char → Option (List Char)
  | a :: b :: c :: d :: '-' :: s => do
    let year ← Decimal.readDigits? 10 [a, b, c, d]
    let (month, s) ← twoDigits? 1 12 s
    match s with
    | '-' :: s => return (← twoDigits? 1 (daysIn year month) s).2
    | _ => none
  | _ => none

/-- What follows the fraction of a second, if there is one. -/
def skipFraction? : List Char → Option (List Char)
  | '.' :: s =>
    if (s.takeWhile Decimal.isDigit).isEmpty then none else some (s.dropWhile Decimal.isDigit)
  | s => some s

/-- What follows a time. The seconds may be left out. -/
def skipTime? (s : List Char) : Option (List Char) := do
  let (_, s) ← twoDigits? 0 23 s
  match s with
  | ':' :: s =>
    let (_, s) ← twoDigits? 0 59 s
    match s with
    | ':' :: s => skipFraction? (← twoDigits? 0 60 s).2
    | s => return s
  | _ => none

/-- Is it how far a time is from universal time? -/
def isOffset (s : List Char) : Bool :=
  match s with
  | [] => true
  | ['Z'] | ['z'] => true
  | c :: s =>
    (c == '+' || c == '-') &&
      match twoDigits? 0 23 s with
      | some (_, ':' :: s) => (twoDigits? 0 59 s).any fun m => m.2.isEmpty
      | _ => false

/-- Is it a date, a time, or both? -/
def isDateTime (s : List Char) : Bool :=
  match skipDate? s with
  | some [] => true
  | some (c :: s) => (c == 'T' || c == 't' || c == ' ') && (skipTime? s).any isOffset
  | none => (skipTime? s).any List.isEmpty

/-- A date or a time. It stays text, under a name of its own that keeps it apart from strings. -/
def dateTime? (s : List Char) : Option Value :=
  if isDateTime s then some (.object [("date-time", .string (String.ofList s))]) else none

/-- The value that is written without quotes. -/
def scalar? (s : List Char) : Option Value :=
  if s = "true".toList then some (.bool true)
  else if s = "false".toList then some (.bool false)
  else
    match integer? s with
    | some v => some v
    | none =>
      match float? s with
      | some v => some v
      | none => dateTime? s

end ClusterTuning.Toml
