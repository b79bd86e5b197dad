/-!
# ClusterTuning.Text.Utf8

**Text as bytes: the UTF-8 encoding and its two decoders.**

The strict decoder refuses bytes that are not UTF-8. The lenient one replaces each ill-formed part
by U+FFFD; a part is the longest run of bytes that could still have become one character, so a
truncated sequence costs one replacement character and a stray byte one each.

Both read one character at a time through `readChar`, whose remainder is shorter than its input.
-/

namespace ClusterTuning

/-- A stream of bytes: file contents, standard input, the output of a command. -/
abbrev Bytes := List UInt8

namespace Text

/-- The encoding of a string. -/
def encode (s : String) : Bytes :=
  s.toList.flatMap String.utf8EncodeChar

/-- Read `n` more continuation bytes, the first of which has to lie in `[lo, hi]`, and shift their
payloads into `acc`. No character comes back where a byte is missing or outside its range, and that
byte stays unread. -/
def readTail : Nat → Nat → Nat → Nat → Bytes → Option Char × Bytes
  | acc, 0, _, _, s => (some (Char.ofNat acc), s)
  | _, _ + 1, _, _, [] => (none, [])
  | acc, n + 1, lo, hi, b :: s =>
    if lo ≤ b.toNat ∧ b.toNat ≤ hi then readTail (acc * 64 + b.toNat % 64) n 0x80 0xBF s
    else (none, b :: s)

theorem length_readTail_le (acc n lo hi : Nat) (s : Bytes) :
    (readTail acc n lo hi s).2.length ≤ s.length := by
  induction n generalizing acc lo hi s with
  | zero => simp [readTail]
  | succ n ih =>
    cases s with
    | nil => simp [readTail]
    | cons b s =>
      simp only [readTail]
      split
      · exact Nat.le_trans (ih _ _ _ _) (by simp)
      · simp

/-- What the lead byte `n` announces: the payload it carries, how many continuation bytes follow,
and the range of the first of them, which excludes overlong forms, surrogates and code points beyond
U+10FFFF. A byte that leads no sequence announces nothing. -/
def lead (n : Nat) : Option (Nat × Nat × Nat × Nat) :=
  if n < 0x80 then some (n, 0, 0, 0)
  else if n < 0xC2 then none
  else if n < 0xE0 then some (n % 32, 1, 0x80, 0xBF)
  else if n = 0xE0 then some (0, 2, 0xA0, 0xBF)
  else if n = 0xED then some (n % 16, 2, 0x80, 0x9F)
  else if n < 0xF0 then some (n % 16, 2, 0x80, 0xBF)
  else if n = 0xF0 then some (0, 3, 0x90, 0xBF)
  else if n < 0xF4 then some (n % 8, 3, 0x80, 0xBF)
  else if n = 0xF4 then some (4, 3, 0x80, 0x8F)
  else none

/-- Read the character that starts with the byte `a` and goes on in `s`. -/
def readChar (a : UInt8) (s : Bytes) : Option Char × Bytes :=
  match lead a.toNat with
  | none => (none, s)
  | some (acc, n, lo, hi) => readTail acc n lo hi s

/-- Reading never returns more than it was given. -/
theorem length_readChar_le (a : UInt8) (s : Bytes) :
    (readChar a s).2.length ≤ s.length := by
  unfold readChar
  split
  · simp
  · exact length_readTail_le ..

/-- The characters of well-formed bytes. -/
def decode? : Bytes → Option (List Char)
  | [] => some []
  | a :: s =>
    match h : readChar a s with
    | (none, _) => none
    | (some c, rest) =>
      have : rest.length ≤ s.length := by
        have := length_readChar_le a s
        rw [h] at this
        exact this
      (decode? rest).map (c :: ·)
termination_by s => s.length
decreasing_by simp only [List.length_cons]; omega

/-- The characters of any bytes, with U+FFFD for each ill-formed part. -/
def decodeLenient : Bytes → List Char
  | [] => []
  | a :: s =>
    match h : readChar a s with
    | (c, rest) =>
      have : rest.length ≤ s.length := by
        have := length_readChar_le a s
        rw [h] at this
        exact this
      c.getD '\uFFFD' :: decodeLenient rest
termination_by s => s.length
decreasing_by simp only [List.length_cons]; omega

end Text

end ClusterTuning
