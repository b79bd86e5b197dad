import ClusterTuning.Templating.Datum
import ClusterTuning.Templating.Expr

/-!
# ClusterTuning.Templating.Arithmetic

**Operations on two values, and slices.**

Two integers are worked on exactly and within 128 bits; a number with a fraction makes the other
operand one too. What an operation does not apply to is an invalid operation, and so is a result
that does not fit.
-/

namespace ClusterTuning.Templating.Datum

/-- An integer as a value, where it fits. -/
def ofWide (n : Int) : Except Fault Datum :=
  if fitsWide n then .ok (.int n) else .error .invalidOperation

/-- Work on two numbers: with `exact` on integers and with `machine` on the others. -/
def onNumbers (exact : Int → Int → Except Fault Datum) (machine : Float → Float → Float)
    (a b : Datum) : Except Fault Datum :=
  match pair? true a b with
  | some (.ints m n) => exact m n
  | some (.floats x y) => .ok (.float (.ofFloat (machine x.toFloat y.toFloat)))
  | _ => .error .invalidOperation

/-- Sum. Texts and sequences of items are put one after the other. -/
def add (a b : Datum) : Except Fault Datum :=
  match a, b with
  | .text s _, .text t _ => .ok (plain (s ++ t))
  | a, b =>
    match a.members?, b.members? with
    | some s, some t => .ok (ofSequence (s ++ t))
    | _, _ => onNumbers (fun m n => ofWide (m + n)) (· + ·) a b

/-- Difference. -/
def sub (a b : Datum) : Except Fault Datum :=
  onNumbers (fun m n => ofWide (m - n)) (· - ·) a b

/-- A list a number of times. -/
def repeated {α : Type} (items : List α) (count : Nat) : List α :=
  (List.replicate count items).flatten

/-- Product. Text and the items of lists and sequences are repeated a natural number of times. -/
def mul (a b : Datum) : Except Fault Datum :=
  let times (count : Datum) (result : Nat → Datum) : Except Fault Datum :=
    match count.natural? with
    | some n => .ok (result n)
    | .none => .error .invalidOperation
  match a.text?, b.text? with
  | some s, _ => times b fun n => plain (repeated s n)
  | .none, some t => times a fun n => plain (repeated t n)
  | .none, .none =>
    match a.members?, b.members? with
    | some items, _ => times b fun n => ofSequence (repeated items n)
    | .none, some items => times a fun n => ofSequence (repeated items n)
    | .none, .none => onNumbers (fun m n => ofWide (m * n)) (· * ·) a b

/-- Quotient. It has a fraction even if both operands are integers. -/
def div (a b : Datum) : Except Fault Datum :=
  match a.double? true, b.double? true with
  | some x, some y => .ok (.float (.ofFloat (x.toFloat / y.toFloat)))
  | _, _ => .error .invalidOperation

/-- A number without its fraction. -/
def withoutFraction (x : Float) : Float :=
  if x < 0 then x.ceil else x.floor

/-- The quotient for which the remainder is not negative. -/
def floorQuotient (x y : Double) : Double :=
  let q := withoutFraction (x.toFloat / y.toFloat)
  let r := (x.remainder y).toFloat
  .ofFloat (if r < 0 then (if 0 < y.toFloat then q - 1 else q + 1) else q)

/-- Quotient without its fraction, such that the remainder is not negative. -/
def floorDiv (a b : Datum) : Except Fault Datum :=
  match pair? true a b with
  | some (.ints m n) => if n = 0 then .error .invalidOperation else ofWide (m / n)
  | some (.floats x y) => .ok (.float (floorQuotient x y))
  | _ => .error .invalidOperation

/-- Remainder: of integers it is not negative, and of other numbers it has the sign of the first. -/
def rem (a b : Datum) : Except Fault Datum :=
  match pair? true a b with
  | some (.ints m n) => if n = 0 then .error .invalidOperation else ofWide (m % n)
  | some (.floats x y) => .ok (.float (x.remainder y))
  | _ => .error .invalidOperation

/-- An integer power within 128 bits. The magnitude of a base above one at least doubles with each
factor, so that a large exponent cannot fit and is refused before the power is taken. -/
def intPower (m n : Int) : Except Fault Datum :=
  if n < 0 ∨ twoTo 32 ≤ n then .error .invalidOperation
  else if m.natAbs ≤ 1 then
    ofWide (Int.pow m (if n.toNat % 2 = 0 ∧ n ≠ 0 then 2 else min n.toNat 1))
  else if 128 < n then .error .invalidOperation
  else ofWide (Int.pow m n.toNat)

/-- Power. -/
def pow (a b : Datum) : Except Fault Datum :=
  onNumbers intPower Float.pow a b

/-- The number with the other sign. -/
def negate : Datum → Except Fault Datum
  | .int n => ofWide (-n)
  | .float x => .ok (.float x.negate)
  | _ => .error .invalidOperation

/-- An operand that has to be defined. A choice that is not made passes. -/
def needed (d : Datum) : Except Fault Unit :=
  match d with
  | .undefined false => .error .undefinedValue
  | _ => .ok ()

/-- Is a value in a container? A text contains texts, a dictionary its keys. -/
def contains (value container : Datum) : Except Fault Bool :=
  match container with
  | .undefined true => .ok false
  | .undefined false => .error .undefinedValue
  | .text s _ => .ok (Text.occursIn value.chars s)
  | .dict entries .. => .ok (lookup value entries).isSome
  | .list items _ | .sequence items _ => .ok (items.any fun d => same d value)
  | _ => .error .invalidOperation

/-- The answer to a question about two values, which have to be defined. -/
def answer (comparison : Comparison) (a b : Datum) : Except Fault Bool := do
  needed a
  needed b
  match comparison with
  | .eq => return same a b
  | .ne => return !same a b
  | .lt => return compare a b == .lt
  | .le => return compare a b != .gt
  | .gt => return compare a b == .gt
  | .ge => return compare a b != .lt
  | .isIn => contains a b
  | .notIn => return !(← contains a b)

/-- An operation on two values. -/
def operate (operation : Operation) (a b : Datum) : Except Fault Datum :=
  match operation with
  | .add => add a b
  | .sub => sub a b
  | .mul => mul a b
  | .div => div a b
  | .floorDiv => floorDiv a b
  | .rem => rem a b
  | .pow => pow a b
  | .concat => do
    needed a
    needed b
    return plain (a.chars ++ b.chars)

/-! ### Slices -/

/-- Every `step`-th item, from the first on. -/
def everyNth {α : Type} (step : Nat) : Nat → List α → List α
  | _, [] => []
  | 0, a :: rest => a :: everyNth step (step - 1) rest
  | wait + 1, _ :: rest => everyNth step wait rest

/-- The number of a bound of a slice, unless the bound is absent. -/
def bound? : Datum → Except Fault (Option Int)
  | .none => .ok Option.none
  | d =>
    match d.integer? with
    | some n => if -twoTo 63 ≤ n ∧ n < twoTo 63 then .ok (some n) else .error .invalidOperation
    | Option.none => .error .invalidOperation

/-- Items from the front to the back. A negative bound counts from the end, and one that lies before
the first item means the first item. -/
def sliceForward {α : Type} (items : List α) (start stop : Option Int) (step : Nat) : List α :=
  let length : Int := items.length
  let place (n : Int) : Nat := (if n < 0 then length + n else n).toNat
  let first := place (start.getD 0)
  let last := place (stop.getD length)
  everyNth step 0 ((items.drop first).take (last - first))

/-- Items from the back to the front. -/
def sliceBackward {α : Type} (items : List α) (start : Option Int) (stop : Option Int)
    (step : Nat) : List α :=
  let length : Int := items.length
  let first : Int := match start with
    | .none => length - 1
    | some n => if length ≤ n then length - 1 else if 0 ≤ n then n else max (length + n) 0
  let last : Int := match stop with
    | .none => 0
    | some n => if n < 0 then max (length + n) 0 else n
  let count : Int :=
    if last = 0 then (first + step) / step else (first - last + step - 1) / step
  let selected := (items.take (first + 1).toNat).drop last.toNat
  (everyNth step 0 selected.reverse).take count.toNat

/-- Some of the items or characters of a value. -/
def slice (of start stop step : Datum) : Except Fault Datum := do
  if of.isUndefined then
    throw .undefinedValue
  let start ← bound? start
  let stop ← bound? stop
  let step := (← bound? step).getD 1
  if step = 0 then
    throw .invalidOperation
  let cut {α : Type} (items : List α) : List α :=
    if 0 < step then sliceForward items start stop step.toNat
    else sliceBackward items start stop step.natAbs
  match of with
  | .text s _ => return plain (cut s)
  | .none => return ofList []
  | .list items _ | .sequence items _ => return ofSequence (cut items)
  | _ => throw .invalidOperation

end ClusterTuning.Templating.Datum
