import ClusterTuning.Templating.Fault
import ClusterTuning.Data.Value
import ClusterTuning.Decimal.Layout
import ClusterTuning.Text.Quoted
import ClusterTuning.Text.Pieces

/-!
# ClusterTuning.Templating.Datum

**The values that expressions of a template work on.**

They are the values of documents and a few more: what is not defined, integers of any size, text
that is marked as safe, functions, sequences that are made on demand, and dictionaries with a
behaviour of their own. All values are ordered, first by their kind. The entries of a dictionary are
kept in the order of their keys.

Lists, sequences and dictionaries have a label, which tells one of them from another with the same
content. They get it when an expression makes them.
-/

namespace ClusterTuning.Templating

/-- What a dictionary is for. -/
inductive Role where
  /-- It is made of what is stored in it. -/
  | plain
  /-- It is the state of a loop. -/
  | loop
  /-- Its members can be assigned to. -/
  | space
deriving DecidableEq, Repr, Inhabited

/-- A value in a template. -/
inductive Datum where
  /-- Nothing defines the value. Where it is `silent` it may be given out as empty text. -/
  | undefined (silent : Bool)
  /-- Nothing. -/
  | none
  /-- A truth value. -/
  | bool (b : Bool)
  /-- An integer. -/
  | int (n : Int)
  /-- A number with a fraction. -/
  | float (x : Double)
  /-- Text, marked as safe or not. -/
  | text (s : List Char) (safe : Bool)
  /-- A function. -/
  | function (name : String)
  /-- A list. -/
  | list (items : List Datum) (label : Option Nat)
  /-- Items that are made on demand. -/
  | sequence (items : List Datum) (label : Option Nat)
  /-- Values by key. -/
  | dict (entries : List (Datum × Datum)) (role : Role) (label : Option Nat)
deriving Repr, Inhabited

namespace Datum

/-- Text without the mark. -/
def plain (s : List Char) : Datum :=
  .text s false

/-- A list without a label. -/
def ofList (items : List Datum) : Datum :=
  .list items Option.none

/-- A sequence without a label. -/
def ofSequence (items : List Datum) : Datum :=
  .sequence items Option.none

/-- A dictionary without a label. -/
def ofEntries (entries : List (Datum × Datum)) : Datum :=
  .dict entries .plain Option.none

/-- Is nothing known to define the value? -/
def isUndefined : Datum → Bool
  | .undefined _ => true
  | _ => false

/-- Is it a number? -/
def isNumber : Datum → Bool
  | .int _ | .float _ => true
  | _ => false

/-- The text, of a text. -/
def text? : Datum → Option (List Char)
  | .text s _ => some s
  | _ => Option.none

/-- The kinds of values, as numbers in their order. -/
def rank : Datum → Nat
  | .undefined _ => 0
  | .none => 1
  | .bool _ => 2
  | .int _ | .float _ => 3
  | .text .. => 4
  | .list .. => 6
  | .dict .. => 7
  | .sequence .. => 8
  | .function _ => 9

/-- Does the value count as true? -/
def isTrue : Datum → Bool
  | .undefined _ | .none => false
  | .bool b => b
  | .int n => n != 0
  | .float x => !x.isZero
  | .text s _ => !s.isEmpty
  | .function _ => true
  | .list items _ | .sequence items _ => !items.isEmpty
  | .dict entries .. => !entries.isEmpty

/-- The number of items or characters. -/
def length? : Datum → Option Nat
  | .text s _ => some s.length
  | .list items _ | .sequence items _ => some items.length
  | .dict entries .. => some entries.length
  | _ => Option.none

/-- The items of a value that has items: those of a list, and the keys of a dictionary. -/
def parts? : Datum → Option (List Datum)
  | .list items _ | .sequence items _ => some items
  | .dict entries .. => some (entries.map Prod.fst)
  | _ => Option.none

/-- The items that a loop over the value visits. -/
def items? : Datum → Option (List Datum)
  | .undefined _ | .none => some []
  | .text s _ => some (s.map fun c => plain [c])
  | d => d.parts?

/-- The items of a list or of a sequence. -/
def members? : Datum → Option (List Datum)
  | .list items _ | .sequence items _ => some items
  | _ => Option.none

/-- What is stored under a text in entries, if it is a number. -/
def numberAt? (name : String) (entries : List (Datum × Datum)) : Option Int :=
  entries.findSome? fun entry =>
    match entry with
    | (.text s _, .int n) => if s = name.toList then some n else Option.none
    | _ => Option.none

/-! ### Text of values -/

/-- Numbers that are given out have no exponent. -/
def numberLayout : Decimal.Layout := ⟨-400, 400, false⟩

/-- Numbers inside other values have an exponent where they are very large or very small. -/
def innerNumberLayout : Decimal.Layout := ⟨-3, 16, false⟩

/-- The text of a number under a layout. -/
def floatChars (layout : Decimal.Layout) (x : Double) : List Char :=
  if x.isNaN then "NaN".toList
  else if x.isFinite then layout.print x
  else if x.negative then "-inf".toList
  else "inf".toList

/-- The text of a truth value. -/
def boolChars (b : Bool) : List Char :=
  if b then "True".toList else "False".toList

/-- The text of a function. -/
def functionChars (name : String) : List Char :=
  "<function ".toList ++ name.toList ++ ['>']

/-- The text of the state of a loop: the place it is at, and the number of its places. -/
def loopChars (entries : List (Datum × Datum)) : List Char :=
  let number (name : String) := ((numberAt? name entries).map Decimal.intChars).getD ['?']
  "<loop ".toList ++ number "index0" ++ '/' :: number "length" ++ ['>']

mutual

/-- The text of a value inside another value. -/
def innerChars : Datum → List Char
  | .undefined _ => "undefined".toList
  | .none => "None".toList
  | .bool b => boolChars b
  | .int n => Decimal.intChars n
  | .float x => floatChars innerNumberLayout x
  | .text s _ => Text.quoteChars s
  | .function name => functionChars name
  | .list items _ | .sequence items _ => '[' :: (itemChars items ++ [']'])
  | .dict entries role _ =>
    if role = .loop then loopChars entries else '{' :: (entryChars entries ++ ['}'])

/-- The text of items between commas. -/
def itemChars : List Datum → List Char
  | [] => []
  | [d] => innerChars d
  | d :: rest => innerChars d ++ ',' :: ' ' :: itemChars rest

/-- The text of entries between commas. -/
def entryChars : List (Datum × Datum) → List Char
  | [] => []
  | [(k, v)] => innerChars k ++ ':' :: ' ' :: innerChars v
  | (k, v) :: rest => innerChars k ++ ':' :: ' ' :: (innerChars v ++ ',' :: ' ' :: entryChars rest)

end

/-- The text of a value that is given out. Text itself is not quoted. -/
def chars : Datum → List Char
  | .undefined _ => []
  | .float x => floatChars numberLayout x
  | .text s _ => s
  | d => innerChars d

/-! ### Numbers -/

/-- The bits of an integer that arithmetic works on. -/
def fitsWide (n : Int) : Bool :=
  -twoTo 127 ≤ n && n < twoTo 127

/-- The integer of a value that counts as one: also a truth value, and a number without fraction. -/
def integer? : Datum → Option Int
  | .bool b => some (if b then 1 else 0)
  | .int n => some n
  | .float x => x.toInt?.filter fun n => -twoTo 63 ≤ n && n ≤ twoTo 63
  | _ => Option.none

/-- The natural number of a value that counts as one. -/
def natural? (d : Datum) : Option Nat :=
  d.integer?.bind fun n => if 0 ≤ n ∧ n < twoTo 64 then some n.toNat else Option.none

/-- Two numbers in a common form for arithmetic. -/
inductive Pair where
  /-- Two integers. -/
  | ints (a b : Int)
  /-- Two numbers with fractions, of which one may have been an integer. -/
  | floats (x y : Double)

/-- A number as one with a fraction. Unless rounding is allowed, it has to be exact. -/
def double? (rounding : Bool) : Datum → Option Double
  | .bool b => some (Double.ofInt (if b then 1 else 0))
  | .int n =>
    let x := Double.ofInt n
    if rounding || x.toInt? == some n then some x else Option.none
  | .float x => some x
  | _ => Option.none

/-- The integer of a truth value or an integer. -/
def wide? (d : Datum) : Option Int :=
  match d with
  | .bool _ | .int _ => d.integer?.filter fitsWide
  | _ => Option.none

/-- Bring two numbers into a common form, where there is one. -/
def pair? (rounding : Bool) (a b : Datum) : Option Pair :=
  match a, b with
  | .float x, b => (b.double? rounding).map fun y => .floats x y
  | a, .float y => (a.double? rounding).map fun x => .floats x y
  | a, b =>
    match a.wide?, b.wide? with
    | some m, some n => some (.ints m n)
    | _, _ => Option.none

/-! ### Order and equality -/

/-- Compare integers. -/
def compareInts (a b : Int) : Ordering :=
  if a < b then .lt else if a = b then .eq else .gt

/-- Compare texts by code point. -/
def compareTexts (s t : List Char) : Ordering :=
  if Text.precedesChars s t then .lt else if s = t then .eq else .gt

/-- A key by which numbers with fractions are in order: the integers that their bits stand for, with
the sign taken into account. Zeros of both signs are one number. -/
def orderKey (x : Double) : Int :=
  if x.negative then -(x.bits.toNat % twoTo 63 : Nat) else (x.bits.toNat : Int)

/-- Compare a number with an integer. The comparison is exact: nothing is rounded. -/
def compareToInt (x : Double) (n : Int) : Ordering :=
  if x.isFinite && x.truncate != n then compareInts x.truncate n
  else if x.isFinite && x.toInt?.isSome then .eq
  else if x.negative then .lt else .gt

/-- The integer of a truth value or an integer, or a number with a fraction. -/
def number? : Datum → Option (Int ⊕ Double)
  | .bool b => some (.inl (if b then 1 else 0))
  | .int n => some (.inl n)
  | .float x => some (.inr x)
  | _ => Option.none

/-- Compare numbers. -/
def compareNumbers : Int ⊕ Double → Int ⊕ Double → Ordering
  | .inl m, .inl n => compareInts m n
  | .inr x, .inr y => compareInts (orderKey x) (orderKey y)
  | .inr x, .inl n => compareToInt x n
  | .inl m, .inr y => (compareToInt y m).swap

/-- Compare two values of one kind, which have no items. -/
def compareSimple (a b : Datum) : Ordering :=
  match a, b with
  | .text s _, .text t _ => compareTexts s t
  | .function name, .function other => compareTexts name.toList other.toList
  | a, b =>
    match a.number?, b.number? with
    | some x, some y => compareNumbers x y
    | _, _ => .eq

mutual

/-- Compare two values: by their kinds, and then by what they hold. -/
def compare : Datum → Datum → Ordering
  | .list items _, other => compareToList 6 items other
  | .sequence items _, other => compareToList 8 items other
  | .dict entries .., other =>
    match other with
    | .dict others .. => compareEntries entries others
    | other => compareInts 7 other.rank
  | a, b => if a.rank = b.rank then compareSimple a b else compareInts a.rank b.rank

/-- Compare items of the kind `rank` with a value. -/
def compareToList (rank : Nat) (items : List Datum) (other : Datum) : Ordering :=
  if other.rank = rank then compareItems items (other.members?.getD [])
  else compareInts rank other.rank

/-- Compare items in order. -/
def compareItems : List Datum → List Datum → Ordering
  | [], [] => .eq
  | [], _ :: _ => .lt
  | _ :: _, [] => .gt
  | a :: s, b :: t => (compare a b).then (compareItems s t)

/-- Compare entries in order. -/
def compareEntries : List (Datum × Datum) → List (Datum × Datum) → Ordering
  | [], [] => .eq
  | [], _ :: _ => .lt
  | _ :: _, [] => .gt
  | (k, v) :: s, (l, w) :: t => ((compare k l).then (compare v w)).then (compareEntries s t)

end

/-- Equality of numbers. NaN differs from itself. -/
def sameNumber : Int ⊕ Double → Int ⊕ Double → Bool
  | .inr x, y => !x.isNaN && compareNumbers (.inr x) y == .eq
  | x, y => compareNumbers x y == .eq

/-- Equality of two values that have no items. -/
def sameSimple (a b : Datum) : Bool :=
  match a, b with
  | .undefined _, other => other.isUndefined
  | .none, .none => true
  | .text s _, .text t _ => s == t
  | .function name, .function other => name == other
  | a, b =>
    match a.number?, b.number? with
    | some x, some y => sameNumber x y
    | _, _ => false

/-- The label of a value that has one. -/
def label? : Datum → Option Nat
  | .list _ label | .sequence _ label | .dict _ _ label => label
  | _ => Option.none

/-- Do two values have the same label? -/
def sameLabel (a b : Datum) : Bool :=
  a.label?.isSome && a.label? == b.label?

/-- What a dictionary holds under a key. -/
def lookup (key : Datum) (entries : List (Datum × Datum)) : Option Datum :=
  (entries.find? fun entry => compare entry.1 key == .eq).map Prod.snd

mutual

/-- Equality of two values. Lists and sequences are compared by their items, and dictionaries by
their entries, unless they are one and the same. -/
def same : Datum → Datum → Bool
  | .list items label, other =>
    sameLabel (.list [] label) other || ((members? other).map (sameItems items)).getD false
  | .sequence items label, other =>
    sameLabel (.list [] label) other || ((members? other).map (sameItems items)).getD false
  | .dict entries _ label, other =>
    sameLabel (.list [] label) other ||
      match other with
      | .dict others .. => entries.length == others.length && sameEntries others entries
      | _ => false
  | a, b => sameSimple a b

/-- Equality of items in order. -/
def sameItems : List Datum → List Datum → Bool
  | [], [] => true
  | a :: s, b :: t => same a b && sameItems s t
  | _, _ => false

/-- Are all entries also in `others`? -/
def sameEntries (others : List (Datum × Datum)) : List (Datum × Datum) → Bool
  | [] => true
  | (k, v) :: rest => ((lookup k others).map (same v)).getD false && sameEntries others rest

end

/-- Store a value under a key of a dictionary. -/
def putEntry (key value : Datum) : List (Datum × Datum) → List (Datum × Datum)
  | [] => [(key, value)]
  | (k, v) :: rest =>
    match compare key k with
    | .lt => (key, value) :: (k, v) :: rest
    | .eq => (k, value) :: rest
    | .gt => (k, v) :: putEntry key value rest

/-! ### Members and items -/

/-- The place that a number means, which counts from the end when it is negative. -/
def place? (key : Datum) (length : Nat) : Option Nat :=
  match key.integer? with
  | Option.none => Option.none
  | some n =>
    if twoTo 63 ≤ n ∨ n < -twoTo 63 then Option.none
    else if 0 ≤ n then some n.toNat
    else if n.natAbs ≤ length then some (length - n.natAbs)
    else Option.none

/-- What a value holds under a name. -/
def member? (name : String) : Datum → Option Datum
  | .dict entries .. => lookup (plain name.toList) entries
  | _ => Option.none

/-- What a value holds under a key or at a place. -/
def item? (whole key : Datum) : Option Datum :=
  match whole with
  | .dict entries .. => lookup key entries
  | .list items _ | .sequence items _ =>
    (place? key items.length).bind fun i => items[i]?
  | .text s _ =>
    (place? key s.length).bind fun i => s[i]?.map fun c => plain [c]
  | _ => Option.none

/-! ### Values of documents -/

mutual

/-- A value of a document in a template. -/
def ofValue : Value → Datum
  | .null => .none
  | .bool b => .bool b
  | .number (.int n) => .int n
  | .number (.double x) => .float x
  | .string s => plain s.toList
  | .array items => ofList (ofItems items)
  | .object fields => ofEntries (ofFields fields)

/-- Items of a document in a template. -/
def ofItems : List Value → List Datum
  | [] => []
  | v :: rest => ofValue v :: ofItems rest

/-- Fields of a document in a template. -/
def ofFields : List (String × Value) → List (Datum × Datum)
  | [] => []
  | (key, v) :: rest => (plain key.toList, ofValue v) :: ofFields rest

end

/-- The text of a key as the name of a field. -/
def fieldName : Datum → Except Fault String
  | .bool b => .ok (if b then "true" else "false")
  | .int n => .ok (String.ofList (Decimal.intChars n))
  | .float x =>
    if x.isFinite then .ok (String.ofList (innerNumberLayout.print x)) else .error .keyNotFinite
  | .text s _ => .ok (String.ofList s)
  | _ => .error .keyNotText

mutual

/-- A value as a value of a document. What is undefined or no finite number becomes nothing, and an
integer has to fit sixty-four bits. -/
def toValue : Datum → Except Fault Value
  | .undefined _ | .none => .ok .null
  | .bool b => .ok (.bool b)
  | .int n =>
    if -twoTo 63 ≤ n ∧ n < twoTo 64 then .ok (.number (.int n)) else .error .numberOutOfRange
  | .float x => .ok (if x.isFinite then .number (.double x) else .null)
  | .text s _ => .ok (.string (String.ofList s))
  | .function name => .ok (.string (String.ofList (functionChars name)))
  | .list items _ | .sequence items _ => (toItems items).map .array
  | .dict entries .. => (toFields entries).map fun fields => .object (Fields.ofList fields)

/-- Items as items of a document. -/
def toItems : List Datum → Except Fault (List Value)
  | [] => .ok []
  | d :: rest => do return (← toValue d) :: (← toItems rest)

/-- Entries as fields of a document. -/
def toFields : List (Datum × Datum) → Except Fault (List (String × Value))
  | [] => .ok []
  | (k, v) :: rest => do return (← fieldName k, ← toValue v) :: (← toFields rest)

end

end Datum

end ClusterTuning.Templating
