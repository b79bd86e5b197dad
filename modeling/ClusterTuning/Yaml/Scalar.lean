import ClusterTuning.Yaml.Node
import ClusterTuning.Data.Value

/-!
# ClusterTuning.Yaml.Scalar

**What the text of a scalar means.**

A plain scalar is nothing, a truth value, an integer, a number or else text, whichever of these its
text spells first. Integers may be hexadecimal, octal or binary. Digits behind a leading zero are
text. An integer beyond 64 bits is refused as long as it fits 128 bits, and is read as a binary64
number beyond that.
-/

namespace ClusterTuning.Yaml

/-- Does the text spell nothing? -/
def spellsNull (s : List Char) : Bool :=
  s = "null".toList || s = "Null".toList || s = "NULL".toList || s = ['~']

/-- The truth value that the text spells. -/
def spelledBool? (s : List Char) : Option Bool :=
  if s = "true".toList || s = "True".toList || s = "TRUE".toList then some true
  else if s = "false".toList || s = "False".toList || s = "FALSE".toList then some false
  else none

/-- Does the text start with a sign? -/
def signed : List Char → Bool
  | '+' :: _ | '-' :: _ => true
  | _ => false

/-- Are these digits behind a leading zero, which are text and no number? -/
def isPaddedDigits (s : List Char) : Bool :=
  let digits := match s with
    | '+' :: rest | '-' :: rest => rest
    | rest => rest
  match digits with
  | '0' :: more => !more.isEmpty && more.all Decimal.isDigit
  | _ => false

/-- The base that a letter behind a zero announces. -/
def baseOf? : Char → Option Nat
  | 'x' => some 16
  | 'o' => some 8
  | 'b' => some 2
  | _ => none

/-- The value of digits behind the announcement of their base. -/
def prefixed? : List Char → Option Nat
  | '0' :: c :: digits => (baseOf? c).bind fun base => Decimal.readDigits? base digits
  | _ => none

/-- The natural number below `bound` that the text spells. -/
def spelledNat? (bound : Nat) (s : List Char) : Option Nat :=
  let digits := match s with
    | '+' :: rest => rest
    | rest => rest
  match prefixed? digits with
  | some n => if n < bound then some n else none
  | none =>
    if signed digits || isPaddedDigits s then none
    else (Decimal.readDigits? 10 digits).filter (· < bound)

/-- The integer from `-bound` up to `bound - 1` that the text spells. -/
def spelledInt? (bound : Nat) (s : List Char) : Option Int :=
  match s with
  | '-' :: digits =>
    let n := match prefixed? digits with
      | some n => some n
      | none => if isPaddedDigits s then none else Decimal.readDigits? 10 digits
    (n.filter (· ≤ bound)).map fun n => -(n : Int)
  | _ => (spelledNat? bound s).map fun n => (n : Int)

/-- The finite number that the text spells in decimal. -/
def spelledDecimal? (s : List Char) : Option Double :=
  let digits := match s with
    | '+' :: rest => if signed rest then [] else rest
    | rest => rest
  (Decimal.read? digits).filter Double.isFinite

/-- Does the text spell an infinity or the number that is none? -/
def spellsNoNumber (s : List Char) : Bool :=
  let unsigned := match s with
    | '+' :: rest | '-' :: rest => rest
    | rest => rest
  unsigned = ".inf".toList || unsigned = ".Inf".toList || unsigned = ".INF".toList ||
    s = ".nan".toList || s = ".NaN".toList || s = ".NAN".toList

/-- What the text of a plain scalar spells. -/
inductive Spelled where
  /-- Nothing. -/
  | null
  /-- A truth value. -/
  | bool (b : Bool)
  /-- An integer of 64 bits. -/
  | int (n : Int)
  /-- An integer that needs up to 128 bits. -/
  | wide
  /-- A finite number. -/
  | double (x : Double)
  /-- An infinity or the number that is none. -/
  | noNumber
  /-- Text. -/
  | text
deriving DecidableEq, Repr, Inhabited

/-- The integer that the text spells. -/
def spelledInteger? (s : List Char) : Option Spelled :=
  match spelledNat? (twoTo 64) s with
  | some n => some (.int n)
  | none =>
    match spelledInt? (twoTo 63) s with
    | some n => some (.int n)
    | none =>
      if (spelledNat? (twoTo 128) s).isSome || (spelledInt? (twoTo 127) s).isSome then some .wide
      else none

/-- The number with a fraction or an exponent that the text spells. -/
def spelledFloat? (s : List Char) : Option Spelled :=
  if spellsNoNumber s then some .noNumber else (spelledDecimal? s).map .double

/-- What the text of a plain scalar spells. -/
def Spelled.ofText (s : List Char) : Spelled :=
  if s.isEmpty || spellsNull s then .null
  else
    match spelledBool? s with
    | some b => .bool b
    | none =>
      match spelledInteger? s with
      | some found => found
      | none => if isPaddedDigits s then .text else (spelledFloat? s).getD .text

/-- What was spelled, as a value. Infinities have no value of their own and are nothing. -/
def Spelled.value? (text : List Char) : Spelled → Option Value
  | .null | .noNumber => some .null
  | .bool b => some (.bool b)
  | .int n => some (.number (.int n))
  | .wide => none
  | .double x => some (.number (.double x))
  | .text => some (.string (String.ofList text))

/-- The tag of a scalar type that is always known. -/
def coreTag (name : String) : List Char :=
  "tag:yaml.org,2002:".toList ++ name.toList

/-- The value of a scalar. A tag of a known type has to fit the text, other full tags make it text,
and local tags are refused. -/
def scalarValue? (tag : Option (List Char)) (text : List Char) (style : Style) : Option Value :=
  match tag with
  | none =>
    if style = .plain then (Spelled.ofText text).value? text
    else some (.string (String.ofList text))
  | some tag =>
    if tag.head? = some '!' then none
    else if tag = coreTag "bool" then (spelledBool? text).map .bool
    else if tag = coreTag "int" then (spelledInteger? text).bind (Spelled.value? text)
    else if tag = coreTag "float" then (spelledFloat? text).bind (Spelled.value? text)
    else if tag = coreTag "null" then (if spellsNull text then some .null else none)
    else some (.string (String.ofList text))

end ClusterTuning.Yaml
