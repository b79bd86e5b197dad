import ClusterTuning.Templating.Call
import ClusterTuning.Text.Blank
import ClusterTuning.Text.LetterCase

/-!
# ClusterTuning.Templating.Filter

**The filters of expressions.**

A filter takes the value it is applied to as its first argument.
-/

namespace ClusterTuning.Templating

open Taking

namespace Filter

/-- Is it text that is marked as safe? -/
def isSafe : Datum → Bool
  | .text _ safe => safe
  | _ => false

/-- A filter that changes the text of a value. The mark of safe text stays. -/
def onText (change : List Char → List Char) : Taking Datum := do
  let d ← one Datum.asIs
  return .text (change d.chars) (isSafe d)

/-- Drop blanks, or the given characters, from both ends. -/
def trim : Taking Datum := do
  let d ← one Datum.asIs
  match ← optional Datum.asText with
  | some chars => return .text (Text.trimWhile (fun c => chars.contains c) d.chars) (isSafe d)
  | none => return .text (Text.trim d.chars) (isSafe d)

/-- Replace one text by another wherever it occurs. -/
def replace : Taking Datum := do
  let s ← one Datum.asText
  let old ← one Datum.asText
  let new ← one Datum.asText
  return .plain (Text.replaceAll old new s)

/-- The pieces between blanks, after at most `cuts` cuts behind the first `before`. The blanks in
front of a piece do not belong to it, and the last piece keeps all that follows its start. Blanks
alone are a piece where nothing else is left. -/
def splitAtBlanks : Nat → List Char → List (List Char)
  | cuts, s =>
    match s.dropWhile Text.isBlank with
    | [] => if s.isEmpty then [] else [s]
    | c :: rest =>
      match cuts with
      | 0 => [c :: rest]
      | cuts + 1 =>
        let (piece, after) := (c :: rest).span fun c => !Text.isBlank c
        piece :: splitAtBlanks cuts after

/-- The pieces between the occurrences of a text, or between blanks. -/
def split : Taking Datum := do
  let s ← one Datum.asString
  let separator ← optional Datum.asString
  let most ← optional (Datum.asInt (-twoTo 63) (twoTo 63 - 1))
  let cuts := most.bind fun n => if 0 ≤ n then some n.toNat else none
  let pieces := match separator, cuts with
    | some separator, cuts => Text.splitBy separator cuts s
    | none, none => Text.wordsBy Text.isBlank s
    | none, some cuts => splitAtBlanks cuts s
  return .ofList (pieces.map Datum.plain)

/-- The texts of the items of a value in one text, with a separator between them. -/
def join : Taking Datum := do
  let d ← value
  let separator ← optional Datum.asText
  match d.items? with
  | some items => return .plain (Text.joinWith (separator.getD []) (items.map Datum.chars))
  | none => throw .invalidOperation

/-- The number of items or characters. -/
def length : Taking Datum := do
  match (← value).length? with
  | some n => return .int n
  | none => throw .invalidOperation

/-- The integer nearest to zero for which nothing but a fraction is dropped. What lies outside of
128 bits becomes the nearest bound. -/
def truncated (x : Double) : Int :=
  if x.isNaN then 0
  else if x.isFinite then max (-twoTo 127) (min (twoTo 127 - 1) x.truncate)
  else if x.negative then -twoTo 127
  else twoTo 127 - 1

/-- Read an integer of 128 bits with an optional sign. -/
def readInt? (s : List Char) : Option Int :=
  let n := match s with
    | '-' :: s => (Decimal.readDigits? 10 s).map fun n => -(n : Int)
    | '+' :: s => (Decimal.readDigits? 10 s).map fun n => (n : Int)
    | s => (Decimal.readDigits? 10 s).map fun n => (n : Int)
  n.filter Datum.fitsWide

/-- Read a number, which may be infinite or NaN. -/
def readFloat? (s : List Char) : Option Double :=
  let (negative, magnitude) := match s with
    | '-' :: s => (true, s)
    | '+' :: s => (false, s)
    | s => (false, s)
  let word := String.ofList (Text.lowerAscii magnitude)
  if word = "inf" ∨ word = "infinity" then some (.infinity negative)
  else if word = "nan" then some .nan
  else Decimal.read? s

/-- The integer that a value stands for. -/
def toInt : Taking Datum := do
  match ← value with
  | .undefined _ | .none => return .int 0
  | .bool b => return .int (if b then 1 else 0)
  | .int n => return .int n
  | .float x => return .int (truncated x)
  | .text s _ =>
    match readInt? s with
    | some n => return .int n
    | none =>
      match readFloat? s with
      | some x => return .int (truncated x)
      | none => throw .invalidOperation
  | _ => throw .invalidOperation

/-- The number that a value stands for, as one with a fraction. -/
def toFloat : Taking Datum := do
  match ← value with
  | .undefined _ | .none => return .float (.ofInt 0)
  | .text s _ =>
    match readFloat? s with
    | some x => return .float x
    | none => throw .invalidOperation
  | d =>
    match d.double? true with
    | some x => return .float x
    | none => throw .invalidOperation

/-- A product of squares: `power` times the `n`-th power of `base`. Every factor is rounded on its
own. `fuel` bounds the squares. -/
def timesSquares : Nat → Float → Nat → Float → Float
  | 0, _, _, power => power
  | fuel + 1, base, n, power =>
    let power := if n % 2 = 1 then power * base else power
    if n < 2 then power else timesSquares fuel (base * base) (n / 2) power

/-- Ten to a power. -/
def scaleFor (n : Int) : Float :=
  let power := timesSquares 64 10 n.natAbs 1
  if n < 0 then 1 / power else power

/-- Round to a number of places behind the point; a half goes away from zero. Integers stay. -/
def round : Taking Datum := do
  let d ← value
  let places ← optional (Datum.asInt (-twoTo 31) (twoTo 31 - 1))
  match d with
  | .int n => return .int n
  | .float x =>
    let scale := scaleFor (max (-400) (min 400 (places.getD 0)))
    return .float (.ofFloat ((scale * x.toFloat).round / scale))
  | _ => throw .invalidOperation

/-- The number without its sign. -/
def abs : Taking Datum := do
  match ← value with
  | .int n => if n = -twoTo 127 then throw .invalidOperation else return .int n.natAbs
  | .float x => return .float (if x.negative then x.negate else x)
  | _ => throw .invalidOperation

/-- The text of a value. -/
def toText : Taking Datum := do
  let d ← value
  Datum.needed d
  match d with
  | .text s safe => return .text s safe
  | d => return .plain d.chars

/-- Does the value count as true? -/
def toBool : Taking Datum := do
  let d ← value
  Datum.needed d
  return .bool d.isTrue

/-- Another value in place of one that is undefined, or in the lax form of one that does not count
as true. -/
def default (passed : Passed) : Except Fault Datum := do
  let form : Taking (Datum × Option Datum × Option Datum) := do
    return (← value, ← possible, ← possible)
  let (d, other, lax) ← form.all passed.positional
  let other := (other <|> passed.named "default_value").getD (.plain [])
  let lax := ((lax <|> passed.named "boolean").map Datum.isTrue).getD false
  passed.onlyNamed ["default_value", "boolean"]
  return if d.isUndefined || (lax && !d.isTrue) then other else d

/-- The items of a value as a list. -/
def toList : Taking Datum := do
  return .ofList (← (← value).asOperandItems)

/-- The first item or character. -/
def first : Taking Datum := do
  match ← value with
  | .undefined _ | .none => throw .invalidOperation
  | d =>
    match d.items? with
    | some items => return items.head?.getD (.undefined false)
    | none => throw .invalidOperation

/-- The last item or character. A character of safe text is safe. -/
def last : Taking Datum := do
  match ← value with
  | .undefined _ | .none | .dict .. => throw .invalidOperation
  | .text s safe => return (s.getLast?.map fun c => .text [c] safe).getD (.undefined false)
  | d =>
    match d.items? with
    | some items => return items.getLast?.getD (.undefined false)
    | none => throw .invalidOperation

/-- The item that every other one is replaced by unless `keeps`. -/
def extreme (keeps : Ordering → Bool) : Taking Datum := do
  match ← (← value).asOperandItems with
  | [] => return .undefined false
  | d :: rest =>
    return rest.foldl (fun best d => if keeps (Datum.compare best d) then best else d) d

/-- The sum of items, which are numbers. -/
def sumItems : Datum → List Datum → Except Fault Datum
  | total, [] => .ok total
  | total, d :: rest =>
    if d.isUndefined then sumItems total rest
    else if d.isNumber then do sumItems (← Datum.add total d) rest
    else .error .invalidOperation

/-- The sum of the items of a value. -/
def sum : Taking Datum := do
  let items ← (← value).asItems
  sumItems (.int 0) items

/-- The items in the opposite order. -/
def reverse : Taking Datum := do
  match ← value with
  | .undefined silent => return .undefined silent
  | .none => return .none
  | .text s safe => return .text s.reverse safe
  | d =>
    match d.items? with
    | some items => return .ofSequence items.reverse
    | none => throw .invalidOperation

/-- The entries of a dictionary as lists of two. -/
def items : Taking Datum := do
  match ← value with
  | .dict entries .. => return .ofSequence (entries.map fun (k, v) => .ofList [k, v])
  | _ => throw .invalidOperation

/-- How a character with a meaning in markup is written. -/
def escapeChar (c : Char) : List Char :=
  if c = '<' then "&lt;".toList
  else if c = '>' then "&gt;".toList
  else if c = '&' then "&amp;".toList
  else if c = '"' then "&quot;".toList
  else if c = '\'' then "&#x27;".toList
  else if c = '/' then "&#x2f;".toList
  else [c]

/-- The text of a value for markup, marked as safe. Safe text stays. -/
def escape : Taking Datum := do
  match ← value with
  | .text s true => return .text s true
  | d => return .text (d.chars.flatMap escapeChar) true

/-- The text of a value, marked as safe. -/
def markSafe : Taking Datum := do
  return .text (← one Datum.asText) true

/-- What a value holds at the end of a path of names. -/
def atPath : List (List Char) → Datum → Option Datum
  | [], d => some d
  | part :: rest, d =>
    if d.isUndefined then none
    else
      let found := match Decimal.readDigits? 10 part with
        | some n => d.item? (.int n)
        | none => d.member? (String.ofList part)
      atPath rest (found.getD (.undefined false))

/-- What a value holds at the end of a path, or a list of what it holds at the ends of several. -/
def atPaths (paths : List (List (List Char))) (d : Datum) : Option Datum :=
  match paths with
  | [path] => atPath path d
  | paths => (paths.mapM fun path => atPath path d).map Datum.ofList

/-- Compare values for sorting. Unless letter case counts, texts are compared in lower case. -/
def sortOrder (caseCounts : Bool) (a b : Datum) : Ordering :=
  match a, b with
  | .text s _, .text t _ =>
    if caseCounts then Datum.compareTexts s t
    else Datum.compareTexts (Text.lower s) (Text.lower t)
  | a, b => Datum.compare a b

/-- A truth value that is given by name, or false. -/
def flag (name : String) (passed : Passed) : Except Fault Bool :=
  match passed.named name with
  | none => .ok false
  | some d => d.asBool

/-- The items of a value in order, or in the opposite order. Items that are equal in this order keep
theirs in both cases. -/
def sort (passed : Passed) : Except Fault Datum := do
  let items ← (do (← value).asOperandItems : Taking (List Datum)).all passed.positional
  let caseCounts ← flag "case_sensitive" passed
  let paths ← match passed.named "attribute" with
    | none => pure none
    | some d => do
      let parts := Text.splitAt ',' (← d.asString)
      pure (some (parts.map fun part => Text.splitAt '.' (Text.trim part)))
  let order (a b : Datum) : Ordering :=
    match paths with
    | none => sortOrder caseCounts a b
    | some paths =>
      match atPaths paths a, atPaths paths b with
      | some a, some b => sortOrder caseCounts a b
      | _, _ => .eq
  let backward ← flag "reverse" passed
  passed.onlyNamed ["case_sensitive", "attribute", "reverse"]
  let inOrder (a b : Datum) : Bool := (if backward then order b a else order a b) != .gt
  return .ofList (items.mergeSort inOrder)

/-- A filter whose arguments are all given by position. -/
def byPosition (filter : Taking Datum) (passed : Passed) : Except Fault Datum :=
  filter.all passed.all

/-- The filters by name. -/
def table : List (String × (Passed → Except Fault Datum)) :=
  [("upper", byPosition (onText Text.upper)), ("lower", byPosition (onText Text.lower)),
    ("capitalize", byPosition (onText Text.capitalize)), ("trim", byPosition trim),
    ("replace", byPosition replace), ("split", byPosition split), ("join", byPosition join),
    ("length", byPosition length), ("count", byPosition length), ("int", byPosition toInt),
    ("float", byPosition toFloat), ("round", byPosition round), ("abs", byPosition abs),
    ("string", byPosition toText), ("bool", byPosition toBool), ("default", default),
    ("d", default), ("list", byPosition toList), ("first", byPosition first),
    ("last", byPosition last), ("min", byPosition (extreme (· != .gt))),
    ("max", byPosition (extreme (· == .gt))), ("sum", byPosition sum),
    ("reverse", byPosition reverse), ("items", byPosition items), ("sort", sort),
    ("escape", byPosition escape), ("e", byPosition escape), ("safe", byPosition markSafe)]

end Filter

/-- The result of the filter of a name. -/
def callFilter (name : String) (passed : Passed) : Except Fault Datum :=
  match Filter.table.lookup name with
  | some filter => filter passed
  | none => .error .unknownFilter

end ClusterTuning.Templating
