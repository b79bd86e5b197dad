import ClusterTuning.Json.Reader
import ClusterTuning.Json.Writer

/-!
# ClusterTuning.Proofs.Json.Scalars

**Reading the strings and the numbers that were written.**

A string reads back as it is. A number need not, as the reader rounds twice, so only its extent
is followed here: what the reader leaves behind the text of a number is what was written there.

## Main statements

* `readStringRest?_writeString`: a written string reads back.
* `eq_of_leavesOf`: what is left behind a number that something closes.
-/

namespace ClusterTuning.Json

@[simp] theorem skipGap_cons {c : Char} (h : isGap c = false) (s : List Char) :
    skipGap (c :: s) = c :: s := by
  simp [skipGap, h]

/-! ### Strings -/

theorem readUnit?_control : ∀ n < 0x20, ∀ rest : List Char,
    readUnit? ('0' :: '0' :: (twoHexDigits n ++ rest)) = some (n, rest) := by
  intro n hn rest
  have hdigits : ∀ n < 0x20,
      Decimal.readDigits? 16 ('0' :: '0' :: twoHexDigits n) = some n := by decide
  have h := hdigits n hn
  rw [twoHexDigits] at h
  simp [twoHexDigits, readUnit?, h]

/-- The three forms in which a character is written. -/
theorem escapeChar_forms (c : Char) :
    (∃ letter, letter ≠ 'u' ∧ letterEscape? letter = some c ∧ escapeChar c = ['\\', letter]) ∨
    (c.toNat < 0x20 ∧ escapeChar c = '\\' :: 'u' :: '0' :: '0' :: twoHexDigits c.toNat) ∨
    ((c ≠ '"' ∧ c ≠ '\\' ∧ ¬ c.toNat < 0x20) ∧ escapeChar c = [c]) := by
  by_cases hletter : c ∈ ['"', '\\', '\x08', '\x0c', '\n', '\r', '\t']
  · left
    simp only [List.mem_cons, List.not_mem_nil, or_false] at hletter
    rcases hletter with rfl | rfl | rfl | rfl | rfl | rfl | rfl
    · exact ⟨'"', by decide⟩
    · exact ⟨'\\', by decide⟩
    · exact ⟨'b', by decide⟩
    · exact ⟨'f', by decide⟩
    · exact ⟨'n', by decide⟩
    · exact ⟨'r', by decide⟩
    · exact ⟨'t', by decide⟩
  · right
    simp only [List.mem_cons, List.not_mem_nil, or_false, not_or] at hletter
    obtain ⟨hquote, hslash, hb, hf, hn, hr, ht⟩ := hletter
    rw [escapeChar, if_neg hquote, if_neg hslash, if_neg hb, if_neg hf, if_neg hn, if_neg hr,
      if_neg ht]
    by_cases hcontrol : c.toNat < 0x20
    · exact Or.inl ⟨hcontrol, if_pos hcontrol⟩
    · exact Or.inr ⟨⟨hquote, hslash, hcontrol⟩, if_neg hcontrol⟩

/-- A character that was written stands for itself. -/
theorem readStringRest?_escapeChar (fuel : Nat) (c : Char) (rest : List Char) :
    readStringRest? (fuel + 1) (escapeChar c ++ rest) =
      (readStringRest? fuel rest).map fun (s, rest) => (c :: s, rest) := by
  rcases escapeChar_forms c with ⟨letter, hu, hletter, h⟩ | ⟨hcontrol, h⟩ | ⟨hplain, h⟩
  · rw [h, List.cons_append, List.cons_append, List.nil_append, readStringRest?, hletter]
    exact hu
  · have hunit : readEscapedUnit? ('0' :: '0' :: (twoHexDigits c.toNat ++ rest)) =
        some (c, rest) := by
      rw [readEscapedUnit?, readUnit?_control _ hcontrol]
      simp only
      rw [if_pos (Or.inl (by omega)), Char.ofNat_toNat]
    rw [h]
    simp only [List.cons_append]
    rw [readStringRest?, hunit]
  · obtain ⟨hquote, hslash, hcontrol⟩ := hplain
    rw [h, List.cons_append, List.nil_append, readStringRest?, if_neg]
    · exact fun hor => hor.elim hcontrol hslash
    all_goals simp [hquote, hslash]

/-- An escaped string reads back, up to its quote. -/
theorem readStringRest?_escaped (s : List Char) {fuel : Nat} (hfuel : s.length < fuel)
    (rest : List Char) :
    readStringRest? fuel (s.flatMap escapeChar ++ '"' :: rest) = some (s, rest) := by
  induction s generalizing fuel with
  | nil =>
      obtain ⟨fuel, rfl⟩ := Nat.exists_eq_succ_of_ne_zero (Nat.ne_zero_of_lt hfuel)
      simp [readStringRest?]
  | cons c s ih =>
      obtain ⟨fuel, rfl⟩ := Nat.exists_eq_succ_of_ne_zero (Nat.ne_zero_of_lt hfuel)
      rw [List.flatMap_cons, List.append_assoc, Nat.succ_eq_add_one, readStringRest?_escapeChar,
        ih (Nat.lt_of_succ_lt_succ hfuel)]
      rfl

theorem length_le_flatMap_escapeChar (s : List Char) :
    s.length ≤ (s.flatMap escapeChar).length := by
  induction s with
  | nil => exact Nat.le_refl _
  | cons c s ih =>
      have hone : 1 ≤ (escapeChar c).length := by
        unfold escapeChar
        repeat' split
        all_goals simp
      rw [List.flatMap_cons, List.length_append, List.length_cons]
      omega

/-- A written string reads back behind its first quote. -/
theorem readStringRest?_writeString (s : String) (rest : List Char) :
    ∃ text, writeString s ++ rest = '"' :: text ∧
      readStringRest? (text.length + 1) text = some (s.toList, rest) := by
  refine ⟨s.toList.flatMap escapeChar ++ '"' :: rest, by simp [writeString], ?_⟩
  refine readStringRest?_escaped s.toList ?_ rest
  have hlength := length_le_flatMap_escapeChar s.toList
  rw [List.length_append]
  omega

/-! ### The extent of numbers -/

/-- The characters that numbers are made of. -/
def isNumeral (c : Char) : Bool :=
  Decimal.isDigit c || c == '.' || c == 'e' || c == 'E' || c == '+' || c == '-'

/-- What is left of a text behind characters of numbers. -/
def LeavesOf (s rest : List Char) : Prop :=
  ∃ used, s = used ++ rest ∧ ∀ c ∈ used, isNumeral c = true

theorem LeavesOf.refl (s : List Char) : LeavesOf s s :=
  ⟨[], rfl, nofun⟩

theorem LeavesOf.trans {a b c : List Char} (h : LeavesOf a b) (h' : LeavesOf b c) :
    LeavesOf a c := by
  obtain ⟨used, rfl, hused⟩ := h
  obtain ⟨more, rfl, hmore⟩ := h'
  refine ⟨used ++ more, (List.append_assoc _ _ _).symm, ?_⟩
  intro d hd
  rcases List.mem_append.mp hd with hd | hd
  · exact hused d hd
  · exact hmore d hd

theorem LeavesOf.cons {c : Char} (hc : isNumeral c = true) {s rest : List Char}
    (h : LeavesOf s rest) : LeavesOf (c :: s) rest := by
  obtain ⟨used, rfl, hused⟩ := h
  refine ⟨c :: used, rfl, ?_⟩
  intro d hd
  rcases List.mem_cons.mp hd with rfl | hd
  · exact hc
  · exact hused d hd

theorem isNumeral_of_isDigit {c : Char} (h : Decimal.isDigit c = true) : isNumeral c = true := by
  simp [isNumeral, h]

theorem leavesOf_dropWhile_isDigit (s : List Char) :
    LeavesOf s (s.dropWhile Decimal.isDigit) :=
  ⟨s.takeWhile Decimal.isDigit, List.takeWhile_append_dropWhile.symm, fun c hc =>
    isNumeral_of_isDigit (List.all_eq_true.mp List.all_takeWhile c hc)⟩

/-- Reading an exponent takes characters of numbers only. -/
theorem leavesOf_readExponent? {s rest : List Char} {e : Int}
    (h : readExponent? s = some (e, rest)) : LeavesOf s rest := by
  unfold readExponent? at h
  split at h
  rename_i sign digits hsign
  simp only [Option.map_eq_some_iff, Prod.mk.injEq] at h
  obtain ⟨n, -, -, rfl⟩ := h
  split at hsign
  all_goals
    obtain ⟨-, rfl⟩ := Prod.mk.injEq .. ▸ hsign
  · exact (leavesOf_dropWhile_isDigit _).cons rfl
  · exact (leavesOf_dropWhile_isDigit _).cons rfl
  · exact leavesOf_dropWhile_isDigit _

/-- A number is read from characters of numbers. -/
theorem leavesOf_readNumber? {negative : Bool} {s rest : List Char} {n : Number}
    (h : readNumber? negative s = some (n, rest)) : LeavesOf s rest := by
  unfold readNumber? at h
  simp only at h
  split at h
  · cases h
  -- digits come first, then perhaps a fraction, then perhaps an exponent
  refine (leavesOf_dropWhile_isDigit s).trans ?_
  split at h
  · cases h
  rename_i fraction tail hpoint
  have htail : LeavesOf (s.dropWhile Decimal.isDigit) tail := by
    split at hpoint
    · rename_i r hr
      split at hpoint
      · cases hpoint
      · simp only [Option.some.injEq, Prod.mk.injEq] at hpoint
        rw [hr, ← hpoint.2]
        exact (leavesOf_dropWhile_isDigit r).cons rfl
    · simp only [Option.some.injEq, Prod.mk.injEq] at hpoint
      rw [hpoint.2]
      exact LeavesOf.refl tail
  refine htail.trans ?_
  split at h
  · simp only [Option.map_eq_some_iff, Prod.mk.injEq] at h
    obtain ⟨_, _, _, rfl⟩ := h
    exact LeavesOf.refl _
  · rename_i c r
    split at h
    · rename_i hc
      split at h
      · cases h
      · rename_i e behind hexponent
        simp only [Option.map_eq_some_iff, Prod.mk.injEq] at h
        obtain ⟨_, _, _, rfl⟩ := h
        refine (leavesOf_readExponent? hexponent).cons ?_
        rcases hc with rfl | rfl <;> rfl
    · simp only [Option.map_eq_some_iff, Prod.mk.injEq] at h
      obtain ⟨_, _, _, rfl⟩ := h
      exact LeavesOf.refl _

/-! ### The texts of numbers -/

/-- A text that is made of the characters of numbers, and of at least one. -/
def IsNumeric (s : List Char) : Prop :=
  s ≠ [] ∧ ∀ c ∈ s, isNumeral c = true

theorem isNumeric_singleton {c : Char} (hc : isNumeral c = true) : IsNumeric [c] :=
  ⟨by simp, by simpa using hc⟩

theorem IsNumeric.append {s t : List Char} (hs : IsNumeric s)
    (ht : ∀ c ∈ t, isNumeral c = true) : IsNumeric (s ++ t) :=
  ⟨by simp [hs.1], fun c hc => (List.mem_append.mp hc).elim (hs.2 c) (ht c)⟩

theorem IsNumeric.cons {c : Char} {s : List Char} (hc : isNumeral c = true)
    (hs : ∀ d ∈ s, isNumeral d = true) : IsNumeric (c :: s) :=
  (isNumeric_singleton hc).append hs

theorem isNumeric_natDigits (n : Nat) : IsNumeric (Decimal.natDigits n) := by
  refine ⟨Nat.toDigits_ne_nil, fun c hc => isNumeral_of_isDigit ?_⟩
  have hdigit := Nat.isDigit_of_mem_toDigits (by decide) (by decide) hc
  rw [Char.isDigit, Bool.and_eq_true] at hdigit
  rw [Decimal.isDigit, Bool.and_eq_true, Nat.ble_eq, Nat.ble_eq]
  simpa [UInt32.le_iff_toNat_le] using hdigit

theorem isNumeric_intChars (n : Int) : IsNumeric (Decimal.intChars n) := by
  rw [Decimal.intChars]
  split
  · exact IsNumeric.cons rfl (isNumeric_natDigits _).2
  · exact isNumeric_natDigits _

theorem isNumeral_of_mem_replicate {n : Nat} {c : Char} (h : c ∈ List.replicate n '0') :
    isNumeral c = true := by
  rw [List.eq_of_mem_replicate h]
  rfl

/-- A point among digits makes no other character, on whichever side zeros are put in. -/
theorem isNumeric_withPoint {digits : List Char} (h : IsNumeric digits) (place : Int) :
    IsNumeric (Decimal.withPoint digits place) := by
  rw [Decimal.withPoint]
  split
  · refine IsNumeric.append (IsNumeric.append ?_ fun c => isNumeral_of_mem_replicate) h.2
    exact IsNumeric.cons rfl (isNumeric_singleton rfl).2
  · split
    · refine (h.append fun c => isNumeral_of_mem_replicate).append ?_
      exact (IsNumeric.cons rfl (isNumeric_singleton rfl).2).2
    · refine ⟨by simp, ?_⟩
      intro c hc
      rcases List.mem_append.mp hc with hc | hc
      · exact h.2 c (List.mem_of_mem_take hc)
      · rcases List.mem_cons.mp hc with rfl | hc
        · rfl
        · exact h.2 c (List.mem_of_mem_drop hc)

theorem isNumeric_scientific (layout : Decimal.Layout) {digits : List Char}
    (h : IsNumeric digits) (place : Int) :
    IsNumeric (Decimal.scientific layout digits place) := by
  have hexponent : IsNumeric
      ('e' :: ((if layout.plus ∧ 1 ≤ place then ['+'] else []) ++
        Decimal.intChars (place - 1))) := by
    refine IsNumeric.cons rfl ?_
    intro c hc
    rcases List.mem_append.mp hc with hc | hc
    · split at hc
      · exact (isNumeric_singleton rfl).2 c hc
      · cases hc
    · exact (isNumeric_intChars _).2 c hc
  unfold Decimal.scientific
  refine IsNumeric.append ?_ hexponent.2
  split
  · exact isNumeric_singleton rfl
  · exact h
  · rename_i d rest
    refine IsNumeric.cons (h.2 _ List.mem_cons_self) ?_
    intro c hc
    rcases List.mem_cons.mp hc with rfl | hc
    · rfl
    · exact h.2 c (List.mem_cons_of_mem _ hc)

theorem isNumeric_print (layout : Decimal.Layout) (x : Double) : IsNumeric (layout.print x) := by
  have hsigned : ∀ text, IsNumeric text →
      IsNumeric ((if x.negative then ['-'] else []) ++ text) := by
    intro text htext
    split
    · exact (isNumeric_singleton rfl).append htext.2
    · exact htext
  rw [Decimal.Layout.print]
  simp only
  split
  · have hzero : IsNumeric ['.', '0'] := IsNumeric.cons rfl (isNumeric_singleton rfl).2
    exact hsigned _ (IsNumeric.cons rfl hzero.2)
  · split
    · exact hsigned _ (isNumeric_withPoint (isNumeric_natDigits _) _)
    · exact hsigned _ (isNumeric_scientific layout (isNumeric_natDigits _) _)

/-- A number is written in characters of numbers, unless it is no number of JSON. -/
theorem writeNumber_forms (n : Number) :
    IsNumeric (writeNumber n) ∨ writeNumber n = ['n', 'u', 'l', 'l'] := by
  cases n with
  | int n => exact Or.inl (isNumeric_intChars n)
  | double x =>
      rw [writeNumber]
      split
      · exact Or.inl (isNumeric_print _ x)
      · exact Or.inr rfl

/-! ### What is left behind a number -/

/-- The text ends, or goes on with what closes a value or separates it from the next. -/
def Closes (s : List Char) : Prop :=
  ∀ c ∈ s.head?, c = ',' ∨ c = ']' ∨ c = '}'

theorem closes_nil : Closes [] :=
  nofun

theorem Closes.isNumeral_eq_false {c : Char} {s : List Char} (h : Closes (c :: s)) :
    isNumeral c = false := by
  rcases h c rfl with rfl | rfl | rfl <;> rfl

theorem isGap_of_isNumeral {c : Char} (h : isNumeral c = true) : isGap c = false := by
  rw [Bool.eq_false_iff]
  intro hgap
  simp only [isGap, Bool.or_eq_true, beq_iff_eq] at hgap
  rcases hgap with ((rfl | rfl) | rfl) | rfl <;> simp [isNumeral, Decimal.isDigit] at h

/-- A number that is closed is read up to where it was written. -/
theorem eq_of_leavesOf {text rest left : List Char} (htext : IsNumeric text)
    (hrest : Closes rest) (hleft : Closes (skipGap left)) (h : LeavesOf (text ++ rest) left) :
    left = rest := by
  obtain ⟨used, hsplit, hused⟩ := h
  rcases List.append_eq_append_iff.mp hsplit with ⟨more, rfl, rfl⟩ | ⟨more, rfl, rfl⟩
  -- too late: the reader has taken what closes the number for a part of it
  · cases more with
    | nil => rfl
    | cons c more =>
        have hc := hused c (List.mem_append_right _ List.mem_cons_self)
        rw [List.cons_append] at hrest
        exact absurd hc (by simp [hrest.isNumeral_eq_false])
  -- too early: a part of the number would have to close it
  · cases more with
    | nil => rfl
    | cons c more =>
        have hc := htext.2 c (List.mem_append_right _ List.mem_cons_self)
        rw [List.cons_append, skipGap_cons (isGap_of_isNumeral hc)] at hleft
        exact absurd hc (by simp [hleft.isNumeral_eq_false])

end ClusterTuning.Json
