import ClusterTuning.Text.Canonical
import ClusterTuning.Text.CombiningClass

/-!
# ClusterTuning.Text.Composed

**One way to write each text: the composed normal form of Unicode.**

Text that looks the same can be written in several ways: a letter with its mark may be one character
or two, and marks at different places of a letter may come in any order. The composed form takes
everything apart, sorts the marks, and puts together what can be put together.

Syllables of the Korean script are put together by a rule instead of a table: a syllable is a leading
consonant, a vowel, and perhaps a trailing consonant.
-/

namespace ClusterTuning.Text

/-! ### Korean syllables -/

/-- The first Korean syllable. -/
def firstSyllable : Nat := 0xAC00

/-- The number of Korean vowels. -/
def vowelCount : Nat := 21

/-- The number of trailing consonants, where none counts as one. -/
def trailCount : Nat := 28

/-- The number of leading consonants. -/
def leadCount : Nat := 19

/-- The place before the first leading consonant, vowel and trailing consonant. -/
def leadBase : Nat := 0x1100

/-- The first vowel. -/
def vowelBase : Nat := 0x1161

/-- The place before the first trailing consonant. -/
def trailBase : Nat := 0x11A7

/-- The parts of a Korean syllable. -/
def syllableParts? (n : Nat) : Option (List Nat) :=
  let place := n - firstSyllable
  if n < firstSyllable ∨ leadCount * vowelCount * trailCount ≤ place then none
  else
    let lead := leadBase + place / trailCount / vowelCount
    let vowel := vowelBase + place / trailCount % vowelCount
    let trail := place % trailCount
    some (if trail = 0 then [lead, vowel] else [lead, vowel, trailBase + trail])

/-- The Korean syllable that a consonant and a vowel, or such a syllable and a trailing consonant,
make. -/
def syllable? (a b : Nat) : Option Nat :=
  let lead := a - leadBase
  let vowel := b - vowelBase
  let place := a - firstSyllable
  let trail := b - trailBase
  if leadBase ≤ a ∧ lead < leadCount ∧ vowelBase ≤ b ∧ vowel < vowelCount then
    some (firstSyllable + (lead * vowelCount + vowel) * trailCount)
  else if firstSyllable ≤ a ∧ place < leadCount * vowelCount * trailCount ∧
      place % trailCount = 0 ∧ 0 < trail ∧ trail < trailCount then
    some (a + trail)
  else none

/-! ### Taking apart -/

/-- The characters that a character is another way to write, in one step. -/
def splitChar (c : Char) : List Char :=
  let n := c.toNat
  match syllableParts? n with
  | some parts => parts.map Char.ofNat
  | none =>
    match canonicalPairs.find? fun pair => pair.whole == n with
    | some pair => [Char.ofNat pair.first, Char.ofNat pair.second]
    | none =>
      match canonicalSplits.find? fun split => split.1 == n with
      | some split => split.2.map Char.ofNat
      | none => [c]

/-- How often parts have parts of their own at most. -/
def splitDepth : Nat := 3

/-- Text without characters that have parts. -/
def splitText (s : List Char) : List Char :=
  Nat.repeat (fun text => text.flatMap splitChar) splitDepth s

/-! ### Sorting marks -/

/-- Put a character behind text that is given backwards, but before marks of a higher class. -/
def placeMark (c : Char) : List Char → List Char
  | [] => [c]
  | d :: before =>
    if combiningClass c ≠ 0 ∧ combiningClass c < combiningClass d then d :: placeMark c before
    else c :: d :: before

/-- Sort the marks behind each character by their class. -/
def sortMarks (s : List Char) : List Char :=
  (s.foldl (fun before c => placeMark c before) []).reverse

/-! ### Putting together -/

/-- The character that two characters make when they meet. -/
def joinPair? (a b : Char) : Option Char :=
  match syllable? a.toNat b.toNat with
  | some n => some (Char.ofNat n)
  | none =>
    (canonicalPairs.find? fun pair => pair.first == a.toNat && pair.second == b.toNat).map
      fun pair => Char.ofNat pair.whole

/-- Put together what follows the character `start` and, backwards, the `marks` that stay behind it.
A mark is hidden from the start by one of its own class. -/
def joinBehind (start : Char) (marks : List Char) : List Char → List Char
  | [] => start :: marks.reverse
  | c :: rest =>
    let meets := marks.head?.all fun mark => combiningClass mark < combiningClass c
    match if meets then joinPair? start c else none with
    | some whole => joinBehind whole marks rest
    | none =>
      if combiningClass c = 0 then start :: (marks.reverse ++ joinBehind c [] rest)
      else joinBehind start (c :: marks) rest

/-- Put together what can be put together. Marks with nothing before them stay. -/
def joinText : List Char → List Char
  | [] => []
  | c :: rest => if combiningClass c = 0 then joinBehind c [] rest else c :: joinText rest

/-- The composed form of text. -/
def composed (s : List Char) : List Char :=
  joinText (sortMarks (splitText s))

end ClusterTuning.Text
