import ClusterTuning.Decimal.Double

/-!
# ClusterTuning.Decimal.Shortest

**The fewest decimal digits that read back as the same number.**

The reals that round to `m · 2^q` form an interval around it, with its ends included exactly when
`m` is even. For each count of digits the value has two neighbours on the decimal grid of that many
digits; if any point of the grid lies in the interval, one of these two does. So the search tries
one digit, two digits, and so on, takes the first grid with a hit, and of two hits the nearer one.
Seventeen digits always suffice.

All comparisons are between natural numbers: value and interval are kept over one denominator.
-/

namespace ClusterTuning.Decimal

/-- A positive decimal `digits · 10^exponent`. -/
structure Digits where
  /-- The digits as a number, without a trailing zero. -/
  digits : Nat
  /-- The power of ten they count. -/
  exponent : Int
deriving DecidableEq, Repr

/-- A positive value with the interval of the reals that round to it, over one denominator. -/
structure Target where
  /-- Lower end of the interval. -/
  lower : Nat
  /-- The value. -/
  value : Nat
  /-- Upper end of the interval. -/
  upper : Nat
  /-- The common denominator. -/
  den : Nat
  /-- Do the ends belong to the interval? -/
  closed : Bool

/-- The interval of a positive finite number. Below a power of two the numbers lie twice as dense,
which halves the lower part. -/
def Target.ofDouble (x : Double) : Target :=
  let m := x.significand
  let lower := if m = twoTo 52 ∧ x.exponentField > 1 then 4 * m - 1 else 4 * m - 2
  let q := x.exponent - 2
  let num := if q < 0 then 1 else twoTo q.natAbs
  let den := if q < 0 then twoTo q.natAbs else 1
  ⟨lower * num, 4 * m * num, (4 * m + 2) * num, den, m % 2 == 0⟩

/-- `num / den` scaled by `10^(-k)`, as a numerator and a denominator. -/
def scaleDown (num den : Nat) (k : Int) : Nat × Nat :=
  if k < 0 then (num * tenTo k.natAbs, den) else (num, den * tenTo k.natAbs)

/-- Does `c · 10^k` lie in the interval? -/
def Target.holds (t : Target) (c : Nat) (k : Int) : Bool :=
  let (lower, den) := scaleDown t.lower t.den k
  let (upper, _) := scaleDown t.upper t.den k
  if t.closed then Nat.ble lower (c * den) && Nat.ble (c * den) upper
  else Nat.blt lower (c * den) && Nat.blt (c * den) upper

/-- The hit of the grid `10^k`, if there is one. -/
def Target.onGrid (t : Target) (k : Int) : Option Nat :=
  let (num, den) := scaleDown t.value t.den k
  let down := num / den
  let rest := num % den
  match t.holds down k && down != 0, t.holds (down + 1) k with
  | true, true =>
    some (if 2 * rest < den then down
      else if den < 2 * rest then down + 1
      else down + down % 2)
  | true, false => some down
  | false, true => some (down + 1)
  | false, false => none

/-- Correct an estimate of the position of the leading digit until `10^e ≤ num / den < 10^(e+1)`;
`fuel` bounds the corrections. -/
def leadingPlace (num den : Nat) : Nat → Int → Int
  | 0, e => e
  | fuel + 1, e =>
    let (n, d) := scaleDown num den e
    if n < d then leadingPlace num den fuel (e - 1)
    else if 10 * d ≤ n then leadingPlace num den fuel (e + 1)
    else e

/-- The first grid with a hit, from the one whose leading digit is the only one on. -/
def Target.search (t : Target) (place : Int) : Nat → Nat → Option Digits
  | 0, _ => none
  | fuel + 1, more =>
    let k := place - (more : Int)
    match t.onGrid k with
    | some c => some ⟨c, k⟩
    | none => t.search place fuel (more + 1)

/-- Move trailing zeros of the digits into the exponent; `fuel` bounds their number. -/
def stripZeros : Nat → Digits → Digits
  | 0, d => d
  | fuel + 1, d =>
    if d.digits ≠ 0 ∧ d.digits % 10 = 0 then stripZeros fuel ⟨d.digits / 10, d.exponent + 1⟩ else d

/-- The shortest digits of a positive finite number. -/
def shortest (x : Double) : Digits :=
  let t := Target.ofDouble x
  let guess : Int := ((Nat.log2 t.value : Int) - (Nat.log2 t.den : Int)) * 30103 / 100000
  let place := leadingPlace t.value t.den 4 guess
  stripZeros 20 ((t.search place 18 0).getD ⟨0, 0⟩)

end ClusterTuning.Decimal
