import ClusterTuning.Decimal.Shortest

/-!
# ClusterTuning.Decimal.Layout

**How the digits of a number are laid out, and how decimal text is taken apart.**

All outputs print the shortest digits and differ only in the layout: up to which size a number is
written with a plain point, and whether a positive exponent carries its sign. A layout is therefore
a record, and each format that writes numbers has its own value of it. A number without a fraction
keeps `.0` in every layout, so that it reads back as a number with a fraction.
-/

namespace ClusterTuning.Decimal

/-- The choices of one format. The place of a number is the count of its digits before the point,
zero or less when the number is below one tenth. -/
structure Layout where
  /-- Least place written with a plain point. -/
  least : Int
  /-- Greatest place written with a plain point. -/
  most : Int
  /-- Is a positive exponent written with its sign? -/
  plus : Bool

/-- The digits of a natural number. -/
def natDigits (n : Nat) : List Char :=
  Nat.toDigits 10 n

/-- The text of an integer. -/
def intChars (n : Int) : List Char :=
  if n < 0 then '-' :: natDigits n.natAbs else natDigits n.natAbs

/-- Digits with a point after the first `place` of them, filled with zeros where there are none. -/
def withPoint (digits : List Char) (place : Int) : List Char :=
  if place ≤ 0 then
    ['0', '.'] ++ List.replicate place.natAbs '0' ++ digits
  else if digits.length ≤ place.natAbs then
    digits ++ List.replicate (place.natAbs - digits.length) '0' ++ ['.', '0']
  else digits.take place.natAbs ++ '.' :: digits.drop place.natAbs

/-- Digits in scientific notation: one digit, the others after a point, and the exponent. -/
def scientific (layout : Layout) (digits : List Char) (place : Int) : List Char :=
  let mantissa := match digits with
    | [] => ['0']
    | [d] => [d]
    | d :: rest => d :: '.' :: rest
  let sign := if layout.plus ∧ 1 ≤ place then ['+'] else []
  mantissa ++ 'e' :: (sign ++ intChars (place - 1))

/-- The text of a finite number. -/
def Layout.print (layout : Layout) (x : Double) : List Char :=
  let sign := if x.negative then ['-'] else []
  if x.isZero then sign ++ ['0', '.', '0']
  else
    let shortest := shortest x
    let digits := natDigits shortest.digits
    let place := (digits.length : Int) + shortest.exponent
    if layout.least ≤ place ∧ place ≤ layout.most then sign ++ withPoint digits place
    else sign ++ scientific layout digits place

/-- The value of a digit in the given base. -/
def digitValue? (base : Nat) (c : Char) : Option Nat :=
  let n := c.toNat
  let value :=
    if 0x30 ≤ n ∧ n ≤ 0x39 then n - 0x30
    else if 0x61 ≤ n ∧ n ≤ 0x7A then n - 0x61 + 10
    else if 0x41 ≤ n ∧ n ≤ 0x5A then n - 0x41 + 10
    else base
  if value < base then some value else none

/-- Is the character one of `0` to `9`? -/
def isDigit (c : Char) : Bool :=
  Nat.ble 0x30 c.toNat && Nat.ble c.toNat 0x39

/-- The value of digits in the given base, after the digits already read. -/
def readDigitsFrom (base : Nat) : Nat → List Char → Option Nat
  | acc, [] => some acc
  | acc, c :: s =>
    match digitValue? base c with
    | some d => readDigitsFrom base (acc * base + d) s
    | none => none

/-- The value of a text that consists of one or more digits of the base. -/
def readDigits? (base : Nat) (s : List Char) : Option Nat :=
  if s.isEmpty then none else readDigitsFrom base 0 s

/-- An exponent: an optional sign and one or more digits. -/
def readExponent? : List Char → Option Int
  | '-' :: s => (readDigits? 10 s).map fun n => -(n : Int)
  | '+' :: s => (readDigits? 10 s).map fun n => (n : Int)
  | s => (readDigits? 10 s).map fun n => (n : Int)

/-- The number nearest to unsigned decimal text: digits around an optional point, at least one of
them, and an optional exponent. -/
def readUnsigned? (negative : Bool) (s : List Char) : Option Double :=
  let whole := s.takeWhile isDigit
  let rest := s.dropWhile isDigit
  let (fraction, tail) := match rest with
    | '.' :: r => (r.takeWhile isDigit, r.dropWhile isDigit)
    | r => ([], r)
  if whole.isEmpty && fraction.isEmpty then none
  else
    let exponent := match tail with
      | [] => some 0
      | c :: r => if c = 'e' ∨ c = 'E' then readExponent? r else none
    match exponent, readDigits? 10 (whole ++ fraction) with
    | some e, some digits => some (Double.ofDecimal negative digits (e - (fraction.length : Int)))
    | _, _ => none

/-- The number nearest to decimal text with an optional sign. -/
def read? : List Char → Option Double
  | '-' :: s => readUnsigned? true s
  | '+' :: s => readUnsigned? false s
  | s => readUnsigned? false s

end ClusterTuning.Decimal
