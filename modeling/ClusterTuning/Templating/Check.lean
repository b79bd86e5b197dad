import ClusterTuning.Templating.Filter

/-!
# ClusterTuning.Templating.Check

**The tests that `is` applies in expressions.**
-/

namespace ClusterTuning.Templating

open Taking

namespace Check

/-- A test on the value alone. -/
def onValue (p : Datum → Bool) : Taking Bool := do
  return p (← value)

/-- A test that compares two values. -/
def onOrder (p : Ordering → Bool) : Taking Bool := do
  let a ← value
  let b ← value
  return p (Datum.compare a b)

/-- A test on two texts. -/
def onTexts (p : List Char → List Char → Bool) : Taking Bool := do
  let a ← one Datum.asText
  let b ← one Datum.asText
  return p a b

/-- Does the integer leave the remainder when it is halved? -/
def leaves (remainder : Int) (d : Datum) : Bool :=
  match d.integer? with
  | some n => n % 2 == remainder && Datum.fitsWide n
  | none => false

/-- Is the first number a multiple of the second? -/
def divisible (a b : Datum) : Bool :=
  match Datum.pair? false a b with
  | some (.ints m n) => n != 0 && m % n == 0
  | some (.floats x y) => (x.remainder y).isZero
  | _ => false

/-- A test on the characters of a text. -/
def onCharacters (p : Char → Bool) : Taking Bool := do
  return (← one Datum.asString).all p

/-- Are the two values one and the same? Values without a label are if they are equal in kind and
content. -/
def identical (a b : Datum) : Bool :=
  match a.label?, b.label? with
  | some m, some n => m == n
  | some _, none | none, some _ => false
  | none, none =>
    a.rank == b.rank && Datum.same a b &&
      match a, b with
      | .int _, .float _ | .float _, .int _ => false
      | _, _ => true

/-- Is the first value in the second? -/
def within : Taking Bool := do
  let a ← value
  let b ← value
  match Datum.contains a b with
  | .ok b => return b
  | .error .undefinedValue => throw .undefinedValue
  | .error _ => return false

/-- Is it the name of a filter? -/
def namesFilter : Taking Bool := do
  return (Filter.table.lookup (String.ofList (← one Datum.asString))).isSome

/-- Equality. -/
def equal : Taking Bool := do
  let a ← value
  let b ← value
  return Datum.same a b

/-- Inequality. -/
def unequal : Taking Bool := do
  return !(← equal)

/-- The tests by name. -/
def table : List (String × Taking Bool) :=
  [("defined", onValue fun d => !d.isUndefined), ("undefined", onValue Datum.isUndefined),
    ("none", onValue fun d => d.rank == Datum.none.rank),
    ("safe", onValue Filter.isSafe), ("escaped", onValue Filter.isSafe),
    ("boolean", onValue fun d => match d with | .bool _ => true | _ => false),
    ("odd", onValue (leaves 1)), ("even", onValue (leaves 0)),
    ("divisibleby", do return divisible (← value) (← value)),
    ("number", onValue Datum.isNumber),
    ("integer", onValue fun d => match d with | .int _ => true | _ => false),
    ("int", onValue fun d => match d with | .int _ => true | _ => false),
    ("float", onValue fun d => match d with | .float _ => true | _ => false),
    ("string", onValue fun d => d.text?.isSome),
    ("sequence", onValue fun d => match d with | .list .. => true | _ => false),
    ("iterable", onValue fun d => d.items?.isSome),
    ("mapping", onValue fun d => match d with | .dict .. => true | _ => false),
    ("startingwith", onTexts fun s t => Text.startsWith t s),
    ("endingwith", onTexts fun s t => Text.endsWith t s),
    ("lower", onCharacters Text.isSmall), ("upper", onCharacters Text.isCapital),
    ("sameas", do return identical (← value) (← value)),
    ("eq", equal), ("equalto", equal), ("==", equal), ("ne", unequal), ("!=", unequal),
    ("lt", onOrder (· == .lt)), ("lessthan", onOrder (· == .lt)),
    ("le", onOrder (· != .gt)), ("gt", onOrder (· == .gt)), ("greaterthan", onOrder (· == .gt)),
    ("ge", onOrder (· != .lt)), ("in", within), ("filter", namesFilter),
    ("true", onValue fun d => match d with | .bool b => b | _ => false),
    ("false", onValue fun d => match d with | .bool b => !b | _ => false)]

/-- Is it the name of a test? -/
def namesTest : Taking Bool := do
  let name := String.ofList (← one Datum.asString)
  return name = "test" || (table.lookup name).isSome

end Check

/-- The result of the test of a name. -/
def callTest (name : String) (passed : Passed) : Except Fault Bool :=
  if name = "test" then Check.namesTest.all passed.all
  else
    match Check.table.lookup name with
    | some test => test.all passed.all
    | none => .error .unknownTest

end ClusterTuning.Templating
