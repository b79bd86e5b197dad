import ClusterTuning.Text.Pieces

/-!
# ClusterTuning.Web.Punycode

**Text in letters, digits and hyphens.**

The coded form of a text holds its ASCII characters, a hyphen, and then how the other characters are
put in, from the smallest on. Putting one in is a step to a pair of a character and a place, and the
pairs are counted through: all places for one character, then all places for the next. Each step is
written as a number in digits of a base that changes from digit to digit, by a bias that follows the
size of the steps before.
-/

namespace ClusterTuning.Web.Punycode

/-! ### Digits -/

/-- The number of digits. -/
def base : Nat := 36

/-- The digit of a value: letters first. -/
def digitChar (d : Nat) : Char :=
  Char.ofNat (if d < 26 then 0x61 + d else 0x30 + (d - 26))

/-- The value of a digit. -/
def digit? (c : Char) : Option Nat :=
  let n := c.toNat
  if 0x61 ≤ n ∧ n ≤ 0x7A then some (n - 0x61)
  else if 0x41 ≤ n ∧ n ≤ 0x5A then some (n - 0x41)
  else if 0x30 ≤ n ∧ n ≤ 0x39 then some (n - 0x30 + 26)
  else none

/-! ### Numbers -/

/-- The least digit at a place that is not the last one of its number. -/
def threshold (bias place : Nat) : Nat :=
  min 26 (max 1 (base * place - bias))

theorem threshold_pos (bias place : Nat) : 1 ≤ threshold bias place := by
  unfold threshold; omega

/-- The digits of a number from a place on. -/
def writeNumber (bias place n : Nat) : List Char :=
  let t := threshold bias place
  if n < t then [digitChar n]
  else digitChar (t + (n - t) % (base - t)) :: writeNumber bias (place + 1) ((n - t) / (base - t))
termination_by n
decreasing_by
  have := threshold_pos bias place
  exact Nat.lt_of_le_of_lt (Nat.div_le_self _ _) (by omega)

/-- What is left of a large step, and how often it was divided. -/
def damp (n : Nat) : Nat × Nat :=
  if 455 < n then let (rest, times) := damp (n / 35); (rest, times + 1) else (n, 0)
termination_by n
decreasing_by exact Nat.div_lt_self (by omega) (by omega)

/-- The bias behind a step of which `size` characters are in the text afterwards. -/
def biasAfter (step size : Nat) (isFirst : Bool) : Nat :=
  let step := if isFirst then step / 700 else step / 2
  let (rest, times) := damp (step + step / size)
  base * times + base * rest / (rest + 38)

/-! ### Steps -/

/-- Where the next step starts from. -/
structure Cursor where
  /-- The character that was put in last. -/
  code : Nat
  /-- The place behind it. -/
  place : Nat
  /-- The number of characters in the text. -/
  size : Nat
  /-- The bias of the next number. -/
  bias : Nat
  /-- Has no character been put in yet? -/
  isFirst : Bool
deriving DecidableEq, Repr, Inhabited

namespace Cursor

/-- Before the first step, in a text of that many ASCII characters. -/
def start (size : Nat) : Cursor :=
  ⟨0x80, 0, size, 72, true⟩

/-- The step to a character and a place. -/
def stepTo (cursor : Cursor) (code place : Nat) : Nat :=
  (code - cursor.code) * (cursor.size + 1) + place - cursor.place

/-- The character and the place that a step leads to. -/
def target (cursor : Cursor) (step : Nat) : Nat × Nat :=
  let count := cursor.place + step
  (cursor.code + count / (cursor.size + 1), count % (cursor.size + 1))

/-- Behind a step to a character and a place. -/
def advance (cursor : Cursor) (step code place : Nat) : Cursor :=
  ⟨code, place + 1, cursor.size + 1, biasAfter step (cursor.size + 1) cursor.isFirst, false⟩

end Cursor

/-! ### Writing -/

/-- The places at which a character is put into the smaller characters of a text, of which `smaller`
come before. -/
def placesOf (code : Nat) : Nat → List Char → List Nat
  | _, [] => []
  | smaller, c :: s =>
    if c.toNat < code then placesOf code (smaller + 1) s
    else if c.toNat = code then smaller :: placesOf code (smaller + 1) s
    else placesOf code smaller s

/-- The characters that are put in, with their places. -/
def insertions (s : List Char) : List (Nat × Nat) :=
  let codes := ((s.map Char.toNat).filter fun n => 0x80 ≤ n).mergeSort.eraseDups
  codes.flatMap fun code => (placesOf code 0 s).map fun place => (code, place)

/-- The numbers of the steps. -/
def writeSteps (cursor : Cursor) : List (Nat × Nat) → List Char
  | [] => []
  | (code, place) :: rest =>
    let step := cursor.stepTo code place
    writeNumber cursor.bias 1 step ++ writeSteps (cursor.advance step code place) rest

/-- The coded form of a text. -/
def encode (s : List Char) : List Char :=
  let plain := s.filter fun c => c.toNat < 0x80
  plain ++ (if plain.isEmpty then [] else ['-']) ++ writeSteps (.start plain.length) (insertions s)

/-! ### Reading -/

/-- Read a number from a place on, of which the next digit counts `weight` and the digits before it
add up to `sum`. What follows the number is left over. -/
def readNumber (bias : Nat) : Nat → Nat → Nat → List Char → Option (Nat × List Char)
  | _, _, _, [] => none
  | place, weight, sum, c :: rest =>
    match digit? c with
    | none => none
    | some d =>
      let t := threshold bias place
      if d < t then some (sum + d * weight, rest)
      else readNumber bias (place + 1) (weight * (base - t)) (sum + d * weight) rest

theorem length_lt_of_readNumber {bias place weight sum n : Nat} {s rest : List Char}
    (h : readNumber bias place weight sum s = some (n, rest)) : rest.length < s.length := by
  induction s generalizing place weight sum with
  | nil => simp [readNumber] at h
  | cons c s ih =>
    simp only [readNumber] at h
    split at h
    · simp at h
    · split at h
      · simp only [Option.some.injEq, Prod.mk.injEq] at h
        simp [← h.2]
      · have := ih h
        simp only [List.length_cons]
        omega

/-- Read the steps and put in the characters that they lead to. -/
def readSteps (text : List Char) (cursor : Cursor) (s : List Char) : Option (List Char) :=
  if s.isEmpty then some text
  else
    match _read : readNumber cursor.bias 1 1 0 s with
    | none => none
    | some (step, rest) =>
      let (code, place) := cursor.target step
      if code.isValidChar then
        readSteps (text.insertIdx place (Char.ofNat code)) (cursor.advance step code place) rest
      else none
termination_by s.length
decreasing_by exact length_lt_of_readNumber ‹_›

/-- The text that has the coded form, if it is one. -/
def decode? (coded : List Char) : Option (List Char) :=
  match Text.cutAtLast '-' coded with
  | some (c :: plain, steps) =>
    if (c :: plain).all fun c => c.toNat < 0x80 then
      readSteps (c :: plain) (.start (plain.length + 1)) steps
    else none
  | some ([], _) => none
  | none => readSteps [] (.start 0) coded

end ClusterTuning.Web.Punycode
