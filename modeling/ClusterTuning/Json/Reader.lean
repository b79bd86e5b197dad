import ClusterTuning.Data.Value
import ClusterTuning.Decimal.Layout

/-!
# ClusterTuning.Json.Reader

**Reading JSON text.**

`Json.read?` accepts exactly one value with blanks around it. Values nest at most 127 deep, later
fields replace earlier ones of the same name, an integer that 64 bits cannot hold is read as a
binary64 number, and a number beyond the binary64 range is refused, as are unpaired surrogate
escapes and bare control characters in strings.

A number with a fraction or an exponent is read from the digits that fit 64 bits and then scaled by
a power of ten, so it passes through at most two roundings and not always through one.
-/

namespace ClusterTuning.Json

/-- The deepest nesting of arrays and objects that is refused. -/
def depthLimit : Nat := 128

/-- The blanks between tokens. -/
def isGap (c : Char) : Bool :=
  c == ' ' || c == '\n' || c == '\t' || c == '\r'

/-- Skip the blanks before a token. -/
def skipGap (s : List Char) : List Char :=
  s.dropWhile isGap

/-- The value of four hexadecimal digits, and what follows them. -/
def readUnit? : List Char → Option (Nat × List Char)
  | a :: b :: c :: d :: rest =>
    (Decimal.readDigits? 16 [a, b, c, d]).map fun unit => (unit, rest)
  | _ => none

/-- The character that a code unit begins, and what follows: the unit itself, or a pair of
surrogates of which the second is escaped right behind the first. -/
def readEscapedUnit? (s : List Char) : Option (Char × List Char) :=
  match readUnit? s with
  | none => none
  | some (unit, rest) =>
    if unit < 0xD800 ∨ 0xE000 ≤ unit then some (Char.ofNat unit, rest)
    else if 0xDC00 ≤ unit then none
    else
      match rest with
      | '\\' :: 'u' :: more =>
        match readUnit? more with
        | none => none
        | some (low, rest) =>
          if 0xDC00 ≤ low ∧ low < 0xE000 then
            some (Char.ofNat (0x10000 + (unit - 0xD800) * 0x400 + (low - 0xDC00)), rest)
          else none
      | _ => none

/-- The character that a letter behind a backslash stands for. -/
def letterEscape? (c : Char) : Option Char :=
  if c = '"' ∨ c = '\\' ∨ c = '/' then some c
  else if c = 'b' then some '\x08'
  else if c = 'f' then some '\x0c'
  else if c = 'n' then some '\n'
  else if c = 'r' then some '\r'
  else if c = 't' then some '\t'
  else none

/-- The rest of a string, up to its closing quote, and what follows. `fuel` bounds the characters;
the length of the text is enough. -/
def readStringRest? : Nat → List Char → Option (List Char × List Char)
  | 0, _ => none
  | _, [] => none
  | _ + 1, '"' :: rest => some ([], rest)
  | fuel + 1, '\\' :: 'u' :: rest =>
    match readEscapedUnit? rest with
    | none => none
    | some (c, rest) => (readStringRest? fuel rest).map fun (s, rest) => (c :: s, rest)
  | fuel + 1, '\\' :: c :: rest =>
    match letterEscape? c with
    | none => none
    | some c => (readStringRest? fuel rest).map fun (s, rest) => (c :: s, rest)
  | fuel + 1, c :: rest =>
    if c.toNat < 0x20 ∨ c = '\\' then none
    else (readStringRest? fuel rest).map fun (s, rest) => (c :: s, rest)

/-- Digits that fit 64 bits after `acc`, and how many digits did not fit. -/
def leadingDigits (acc : Nat) : List Char → Nat × Nat
  | [] => (acc, 0)
  | c :: s =>
    let next := acc * 10 + (c.toNat - 0x30)
    if next < twoTo 64 then leadingDigits next s else (acc, (c :: s).length)

/-- Scale by powers of ten: one rounding for each factor of up to `10^308`. Nothing comes back when
the result is beyond the range. -/
def scale? (x : Double) (exponent : Int) : Option Double :=
  if x.isZero then some x
  else if 308 < exponent then none
  else if 0 ≤ exponent then
    let y := x.timesTen exponent.natAbs
    if y.isFinite then some y else none
  else if -308 ≤ exponent then some (x.overTen exponent.natAbs)
  else
    let y := x.overTen 308
    if -616 ≤ exponent then some (y.overTen (exponent.natAbs - 308))
    else some (Double.ofFields false 0)

/-- A number with a fraction or an exponent. -/
def decimal? (negative : Bool) (whole fraction : List Char) (exponent : Int) : Option Number :=
  let (head, excess) := leadingDigits 0 whole
  let (digits, dropped) := leadingDigits head fraction
  let shift := (excess : Int) - ((fraction.length - dropped : Nat) : Int)
  (scale? (Double.ofInt digits) (exponent + shift)).map fun x =>
    .double (if negative then x.negate else x)

/-- An integer. Minus zero has no integer and is the binary64 number. -/
def integer? (negative : Bool) (whole : List Char) : Option Number :=
  let (head, excess) := leadingDigits 0 whole
  if excess = 0 then
    if !negative then some (.int head)
    else if head = 0 then some (.double (Double.ofFields true 0))
    else if head ≤ twoTo 63 then some (.int (-(head : Int)))
    else some (.double (Double.ofInt head).negate)
  else
    (scale? (Double.ofInt head) excess).map fun x => .double (if negative then x.negate else x)

/-- The exponent behind an `e`, and what follows. -/
def readExponent? (s : List Char) : Option (Int × List Char) :=
  let (sign, s) : Int × List Char := match s with
    | '-' :: r => (-1, r)
    | '+' :: r => (1, r)
    | r => (1, r)
  let digits := s.takeWhile Decimal.isDigit
  (Decimal.readDigits? 10 digits).map fun n => (sign * n, s.dropWhile Decimal.isDigit)

/-- A number, and what follows it. A zero is not followed by further digits. -/
def readNumber? (negative : Bool) (s : List Char) : Option (Number × List Char) :=
  let whole := s.takeWhile Decimal.isDigit
  let rest := s.dropWhile Decimal.isDigit
  if whole.isEmpty || (whole.head? == some '0' && whole.length != 1) then none
  else
    let point : Option (Option (List Char) × List Char) := match rest with
      | '.' :: r =>
        let fraction := r.takeWhile Decimal.isDigit
        if fraction.isEmpty then none else some (some fraction, r.dropWhile Decimal.isDigit)
      | r => some (none, r)
    match point with
    | none => none
    | some (fraction, rest) =>
      match rest with
      | [] => (finish fraction none).map (·, rest)
      | c :: r =>
        if c = 'e' ∨ c = 'E' then
          match readExponent? r with
          | none => none
          | some (e, rest) => (finish fraction (some e)).map (·, rest)
        else (finish fraction none).map (·, rest)
where
  /-- The number, once its parts are known. -/
  finish (fraction : Option (List Char)) (exponent : Option Int) : Option Number :=
    let whole := s.takeWhile Decimal.isDigit
    match fraction, exponent with
    | none, none => integer? negative whole
    | f, e => decimal? negative whole (f.getD []) (e.getD 0)

mutual

/-- A value after its blanks, and what follows it. `depth` is how many arrays and objects may still
be opened, and `fuel` bounds the steps. -/
def readValue? : Nat → Nat → List Char → Option (Value × List Char)
  | 0, _, _ => none
  | fuel + 1, depth, s =>
    match skipGap s with
    | '"' :: rest =>
      (readStringRest? (rest.length + 1) rest).map fun (t, rest) =>
        (.string (String.ofList t), rest)
    | '[' :: rest =>
      if depth ≤ 1 then none
      else
        match skipGap rest with
        | ']' :: rest => some (.array [], rest)
        | _ => (readItems? fuel (depth - 1) rest).map fun (items, rest) => (.array items, rest)
    | '{' :: rest =>
      if depth ≤ 1 then none
      else
        match skipGap rest with
        | '}' :: rest => some (.object [], rest)
        | _ =>
          (readFields? fuel (depth - 1) rest).map fun (fields, rest) =>
            (.object (Fields.ofList fields), rest)
    | '-' :: rest => (readNumber? true rest).map fun (n, rest) => (.number n, rest)
    | 't' :: 'r' :: 'u' :: 'e' :: rest => some (.bool true, rest)
    | 'f' :: 'a' :: 'l' :: 's' :: 'e' :: rest => some (.bool false, rest)
    | 'n' :: 'u' :: 'l' :: 'l' :: rest => some (.null, rest)
    | rest => (readNumber? false rest).map fun (n, rest) => (.number n, rest)

/-- One or more values up to the closing bracket. -/
def readItems? : Nat → Nat → List Char → Option (List Value × List Char)
  | 0, _, _ => none
  | fuel + 1, depth, s =>
    match readValue? fuel depth s with
    | none => none
    | some (v, rest) =>
      match skipGap rest with
      | ']' :: rest => some ([v], rest)
      | ',' :: rest => (readItems? fuel depth rest).map fun (items, rest) => (v :: items, rest)
      | _ => none

/-- One or more fields up to the closing brace. -/
def readFields? : Nat → Nat → List Char → Option (List (String × Value) × List Char)
  | 0, _, _ => none
  | fuel + 1, depth, s =>
    match skipGap s with
    | '"' :: rest =>
      match readStringRest? (rest.length + 1) rest with
      | none => none
      | some (key, rest) =>
        match skipGap rest with
        | ':' :: rest =>
          match readValue? fuel depth rest with
          | none => none
          | some (v, rest) =>
            match skipGap rest with
            | '}' :: rest => some ([(String.ofList key, v)], rest)
            | ',' :: rest =>
              (readFields? fuel depth rest).map fun (fields, rest) =>
                ((String.ofList key, v) :: fields, rest)
            | _ => none
        | _ => none
    | _ => none

end

/-- The value that a text consists of. -/
def readChars? (s : List Char) : Option Value :=
  match readValue? (s.length + 1) depthLimit s with
  | none => none
  | some (v, rest) => if (skipGap rest).isEmpty then some v else none

/-- The value that a string consists of. -/
def read? (s : String) : Option Value :=
  readChars? s.toList

end ClusterTuning.Json
