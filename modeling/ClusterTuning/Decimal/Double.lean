import ClusterTuning.Decimal.Power

/-!
# ClusterTuning.Decimal.Double

**A binary64 number as its sixty-four bits, and the exact step from a decimal to the nearest one.**

A finite number of this format is `± m · 2^q` with natural `m < 2^53`. Keeping the bits, and not a
machine float, makes equality decidable and leaves rounding, printing and reading to exact
arithmetic on `Nat`. Only the arithmetic of rendered expressions goes through the machine, by
`toFloat` and `ofFloat`.

`ofRatio` rounds a quotient to the nearest number of the format, and a quotient half way between
two to the one with an even significand.
-/

namespace ClusterTuning

/-- A binary64 number, by its bits: one of sign, eleven of exponent, fifty-two of significand. -/
structure Double where
  /-- The bits. -/
  bits : UInt64
deriving DecidableEq, Repr, Inhabited

namespace Double

/-- The machine number with the same bits. -/
def toFloat (x : Double) : Float :=
  Float.ofBits x.bits

/-- The bits of a machine number. -/
def ofFloat (x : Float) : Double :=
  ⟨x.toBits⟩

/-- Does the number carry a minus sign? Zero may. -/
def negative (x : Double) : Bool :=
  x.bits.toNat / twoTo 63 == 1

/-- The exponent field: 0 for zero and subnormal numbers, 2047 for infinities and NaN. -/
def exponentField (x : Double) : Nat :=
  x.bits.toNat / twoTo 52 % 2048

/-- The fraction field. -/
def fractionField (x : Double) : Nat :=
  x.bits.toNat % twoTo 52

/-- Is it a number, and not an infinity or NaN? -/
def isFinite (x : Double) : Bool :=
  x.exponentField != 2047

/-- Is it NaN? -/
def isNaN (x : Double) : Bool :=
  x.exponentField == 2047 && x.fractionField != 0

/-- Is it zero of either sign? -/
def isZero (x : Double) : Bool :=
  x.exponentField == 0 && x.fractionField == 0

/-- The significand `m` of a finite number `± m · 2^q`. -/
def significand (x : Double) : Nat :=
  if x.exponentField == 0 then x.fractionField else twoTo 52 + x.fractionField

/-- The exponent `q` of a finite number `± m · 2^q`. -/
def exponent (x : Double) : Int :=
  if x.exponentField == 0 then -1074 else (x.exponentField : Int) - 1075

/-- A number from its sign and the remaining sixty-three bits. -/
def ofFields (negative : Bool) (magnitude : Nat) : Double :=
  ⟨UInt64.ofNat (if negative then twoTo 63 + magnitude else magnitude)⟩

/-- Infinity of the given sign. -/
def infinity (negative : Bool) : Double :=
  ofFields negative (2047 * twoTo 52)

/-- NaN. -/
def nan : Double :=
  ofFields false (2047 * twoTo 52 + twoTo 51)

/-- Divide and round to the nearest integer, a half to the even neighbour. -/
def roundDiv (num den : Nat) : Nat :=
  let floor := num / den
  let twice := 2 * (num % den)
  if twice < den then floor
  else if den < twice then floor + 1
  else floor + floor % 2

/-- The quotient `num / (den · 2^q)` as a numerator and a denominator. -/
def scaled (num den : Nat) (q : Int) : Nat × Nat :=
  if q < 0 then (num * twoTo q.natAbs, den) else (num, den * twoTo q.natAbs)

/-- The number nearest to `± num / den`, for positive `den`.

The exponent is chosen such that the rounded significand has fifty-three bits, or fewer at the
lower end of the range. A significand that rounds up to `2^53` carries into the exponent field by
itself, as the two fields are adjacent. -/
def ofRatio (negative : Bool) (num den : Nat) : Double :=
  if num = 0 then ofFields negative 0
  else
    let guess : Int := max ((Nat.log2 num : Int) - (Nat.log2 den : Int) - 53) (-1074)
    let (n, d) := scaled num den guess
    let q : Int := if n / d < twoTo 53 then guess else guess + 1
    let (n, d) := scaled num den q
    let m := roundDiv n d
    let magnitude := if m < twoTo 52 then m else (q + 1075).toNat * twoTo 52 + (m - twoTo 52)
    if magnitude < 2047 * twoTo 52 then ofFields negative magnitude else infinity negative

/-- The number nearest to `± digits · 10^exponent`. Exponents far outside the range of the format
are answered at once, without the powers of ten they would need. -/
def ofDecimal (negative : Bool) (digits : Nat) (exponent : Int) : Double :=
  let size : Int := (Nat.log2 digits : Int) * 30103 / 100000
  if digits = 0 then ofFields negative 0
  else if 400 < size + exponent then infinity negative
  else if size + exponent < -400 then ofFields negative 0
  else if exponent < 0 then ofRatio negative digits (tenTo exponent.natAbs)
  else ofRatio negative (digits * tenTo exponent.natAbs) 1

/-- The number nearest to an integer. -/
def ofInt (n : Int) : Double :=
  ofRatio (n < 0) n.natAbs 1

/-- The number with the other sign. -/
def negate (x : Double) : Double :=
  ofFields (!x.negative) (x.bits.toNat % twoTo 63)

/-- Round `x · num / den` for a finite `x`. -/
def timesRatio (x : Double) (num den : Nat) : Double :=
  let (n, d) := scaled (x.significand * num) den (-x.exponent)
  ofRatio x.negative n d

/-- Multiply a finite number by the number nearest to `10^k`, and round. -/
def timesTen (x : Double) (k : Nat) : Double :=
  let (n, d) := scaled (ofDecimal false 1 k).significand 1 (-(ofDecimal false 1 k).exponent)
  x.timesRatio n d

/-- Divide a finite number by the number nearest to `10^k`, and round. -/
def overTen (x : Double) (k : Nat) : Double :=
  let (n, d) := scaled (ofDecimal false 1 k).significand 1 (-(ofDecimal false 1 k).exponent)
  x.timesRatio d n

/-- A finite number is an integer when its significand, scaled, leaves no fraction; this is that
integer. -/
def toInt? (x : Double) : Option Int :=
  if !x.isFinite then none
  else
    let sign : Int := if x.negative then -1 else 1
    if x.exponent < 0 then
      if x.significand % twoTo x.exponent.natAbs == 0 then
        some (sign * (x.significand / twoTo x.exponent.natAbs : Nat))
      else none
    else some (sign * (x.significand * twoTo x.exponent.natAbs : Nat))

/-- The integer between zero and a finite number that is nearest to the number. -/
def truncate (x : Double) : Int :=
  let sign : Int := if x.negative then -1 else 1
  if x.exponent < 0 then sign * (x.significand / twoTo x.exponent.natAbs : Nat)
  else sign * (x.significand * twoTo x.exponent.natAbs : Nat)

/-- The remainder of `x` by `y` that has the sign of `x` and is smaller than `y`. It is exact: both
operands are integers over a common power of two. -/
def remainder (x y : Double) : Double :=
  if x.isNaN || y.isNaN || !x.isFinite || y.isZero then nan
  else if !y.isFinite then x
  else
    let q := min x.exponent y.exponent
    let a := x.significand * twoTo (x.exponent - q).natAbs
    let b := y.significand * twoTo (y.exponent - q).natAbs
    let r := a % b
    if q < 0 then ofRatio x.negative r (twoTo q.natAbs)
    else ofRatio x.negative (r * twoTo q.natAbs) 1

end Double

end ClusterTuning
