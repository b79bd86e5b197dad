import ClusterTuning.Proofs.Json.Scalars

/-!
# ClusterTuning.Proofs.Json.Control

**Written JSON has no control characters.**

Between the values the writer puts no blanks at all, and inside strings it escapes the characters
below U+0020. So the text of any value is one line, and it has no character zero: it can stand in a
variable of an environment.

## Main statement

* `not_control_of_mem_write`: every character of a written value is U+0020 or above.
-/

namespace ClusterTuning.Json

/-- The text has no characters below U+0020. -/
def Uncontrolled (s : List Char) : Prop :=
  ∀ c ∈ s, 0x20 ≤ c.toNat

instance (s : List Char) : Decidable (Uncontrolled s) :=
  decidable_of_iff (s.all fun c => Nat.ble 0x20 c.toNat) (by
    simp only [List.all_eq_true, Nat.ble_eq, Uncontrolled])

theorem uncontrolled_nil : Uncontrolled [] :=
  nofun

theorem uncontrolled_cons_iff {c : Char} {s : List Char} :
    Uncontrolled (c :: s) ↔ 0x20 ≤ c.toNat ∧ Uncontrolled s :=
  List.forall_mem_cons

theorem uncontrolled_append_iff {s t : List Char} :
    Uncontrolled (s ++ t) ↔ Uncontrolled s ∧ Uncontrolled t :=
  List.forall_mem_append

/-! ### Strings and numbers -/

/-- No control character is the letter of an escape. -/
theorem not_control_of_letterEscape? {letter c : Char} (h : letterEscape? letter = some c) :
    0x20 ≤ letter.toNat := by
  refine Nat.le_of_not_lt fun hcontrol => ?_
  have hnone : ∀ n < 0x20, letterEscape? (Char.ofNat n) = none := by decide
  have hletter := hnone letter.toNat hcontrol
  rw [Char.ofNat_toNat, h] at hletter
  cases hletter

/-- A control character is written with characters that are none. -/
theorem uncontrolled_escapeChar (c : Char) : Uncontrolled (escapeChar c) := by
  rcases escapeChar_forms c with ⟨letter, -, hletter, h⟩ | ⟨hcontrol, -⟩ | ⟨⟨-, -, hplain⟩, h⟩
  · rw [h, uncontrolled_cons_iff, uncontrolled_cons_iff]
    exact ⟨by decide, not_control_of_letterEscape? hletter, uncontrolled_nil⟩
  · have hescaped : ∀ n < 0x20, Uncontrolled (escapeChar (Char.ofNat n)) := by decide
    have h := hescaped c.toNat hcontrol
    rwa [Char.ofNat_toNat] at h
  · rw [h, uncontrolled_cons_iff]
    exact ⟨Nat.le_of_not_lt hplain, uncontrolled_nil⟩

theorem uncontrolled_writeString (s : String) : Uncontrolled (writeString s) := by
  refine uncontrolled_cons_iff.mpr ⟨by decide, uncontrolled_append_iff.mpr ⟨?_, ?_⟩⟩
  · intro c hc
    obtain ⟨d, -, hd⟩ := List.mem_flatMap.mp hc
    exact uncontrolled_escapeChar d c hd
  · exact uncontrolled_cons_iff.mpr ⟨by decide, uncontrolled_nil⟩

theorem not_control_of_isNumeral {c : Char} (h : isNumeral c = true) : 0x20 ≤ c.toNat := by
  simp only [isNumeral, Decimal.isDigit, Bool.or_eq_true, Bool.and_eq_true, Nat.ble_eq,
    beq_iff_eq] at h
  rcases h with ((((hdigit | rfl) | rfl) | rfl) | rfl) | rfl
  · exact Nat.le_trans (by decide) hdigit.1
  all_goals decide

theorem uncontrolled_writeNumber (n : Number) : Uncontrolled (writeNumber n) := by
  rcases writeNumber_forms n with ⟨-, hall⟩ | hnull
  · exact fun c hc => not_control_of_isNumeral (hall c hc)
  · rw [hnull]
    decide

/-! ### Values -/

mutual

theorem uncontrolled_writeChars : ∀ v : Value, Uncontrolled (writeChars v)
  | .null => by decide
  | .bool b => by cases b <;> decide
  | .number n => by
      rw [writeChars]
      exact uncontrolled_writeNumber n
  | .string s => by
      rw [writeChars]
      exact uncontrolled_writeString s
  | .array items => by
      rw [writeChars, uncontrolled_cons_iff, uncontrolled_append_iff, uncontrolled_cons_iff]
      exact ⟨by decide, uncontrolled_writeItems items, by decide, uncontrolled_nil⟩
  | .object fields => by
      rw [writeChars, uncontrolled_cons_iff, uncontrolled_append_iff, uncontrolled_cons_iff]
      exact ⟨by decide, uncontrolled_writeFields fields, by decide, uncontrolled_nil⟩

theorem uncontrolled_writeItems : ∀ items : List Value, Uncontrolled (writeItems items)
  | [] => uncontrolled_nil
  | [v] => by
      rw [writeItems]
      exact uncontrolled_writeChars v
  | v :: w :: rest => by
      rw [writeItems, uncontrolled_append_iff, uncontrolled_cons_iff]
      · exact ⟨uncontrolled_writeChars v, by decide, uncontrolled_writeItems (w :: rest)⟩
      · simp

theorem uncontrolled_writeFields : ∀ fields : List (String × Value),
    Uncontrolled (writeFields fields)
  | [] => uncontrolled_nil
  | [(k, v)] => by
      rw [writeFields, uncontrolled_append_iff, uncontrolled_cons_iff]
      exact ⟨uncontrolled_writeString k, by decide, uncontrolled_writeChars v⟩
  | (k, v) :: field :: rest => by
      rw [writeFields, uncontrolled_append_iff, uncontrolled_cons_iff, uncontrolled_append_iff,
        uncontrolled_cons_iff]
      · exact ⟨uncontrolled_writeString k, by decide, uncontrolled_writeChars v, by decide,
          uncontrolled_writeFields (field :: rest)⟩
      · simp

end

/-- Every character of a written value is U+0020 or above. -/
theorem not_control_of_mem_write {v : Value} {c : Char} (h : c ∈ (write v).toList) :
    0x20 ≤ c.toNat := by
  rw [write, String.toList_ofList] at h
  exact uncontrolled_writeChars v c h

end ClusterTuning.Json
