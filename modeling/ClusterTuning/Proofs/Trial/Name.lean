import ClusterTuning.Proofs.Text
import ClusterTuning.Trial
import Mathlib.Algebra.Order.Ring.Nat

/-!
# ClusterTuning.Proofs.Trial.Name

**Which names are names of trials.**

A name is read by its last part only, so the name of the experiment in front of it may hold
anything, also dashes and digits. The part is read as strictly as digits can be: there is no sign,
no blank and no digit but the ten of ASCII, and the value has 64 bits, however many zeros lead it.
What is printed for a trial, filled with zeros, is such a part.

## Main statements

* `Decimal.readDigits?_ten_eq_some_iff`: which text is a decimal number, and which number it is.
* `parseTrialNumber_exact`: which names are read, and as what.
-/

namespace ClusterTuning

/-! ### Decimal digits -/

namespace Decimal

theorem digitValue?_ten (c : Char) :
    digitValue? 10 c = if c.isDigit = true then some (c.toNat - '0'.toNat) else none := by
  have hdigit : c.isDigit = true ↔ 0x30 ≤ c.toNat ∧ c.toNat ≤ 0x39 := by
    simp only [Char.isDigit, Bool.and_eq_true, decide_eq_true_eq]
    exact Iff.rfl
  rw [digitValue?]
  by_cases h : 0x30 ≤ c.toNat ∧ c.toNat ≤ 0x39
  · have hlt : c.toNat - 0x30 < 10 := by omega
    simp only [if_pos h, if_pos (hdigit.mpr h), if_pos hlt]
    rfl
  · -- letters stand for ten and more, which is no digit of the base
    rw [if_neg (mt hdigit.mp h)]
    refine if_neg ?_
    split_ifs <;> omega

/-- Digits are read as the number that they stand for, behind digits that were read before. -/
theorem readDigitsFrom_ten (acc : Nat) (s : List Char) :
    readDigitsFrom 10 acc s =
      if s.all Char.isDigit then some (Nat.ofDigitChars 10 s acc) else none := by
  induction s generalizing acc with
  | nil => simp [readDigitsFrom, Nat.ofDigitChars]
  | cons c s ih =>
      rw [readDigitsFrom, digitValue?_ten]
      by_cases hc : c.isDigit = true
      · rw [if_pos hc]
        simp only [ih, List.all_cons, hc, Bool.true_and, Nat.ofDigitChars_cons, Nat.mul_comm acc 10]
      · simp [hc]

/-- A text is a decimal number if it has characters and all of them are digits. -/
theorem readDigits?_ten_eq_some_iff {s : List Char} {n : Nat} :
    readDigits? 10 s = some n ↔
      s ≠ [] ∧ (∀ c ∈ s, c.isDigit = true) ∧ Nat.ofDigitChars 10 s 0 = n := by
  rw [readDigits?, readDigitsFrom_ten]
  cases s <;> simp

theorem ofDigitChars_replicate_zero_append (zeros : Nat) (s : List Char) :
    Nat.ofDigitChars 10 (List.replicate zeros '0' ++ s) 0 = Nat.ofDigitChars 10 s 0 := by
  induction zeros with
  | zero => rfl
  | succ zeros ih =>
      rw [List.replicate_succ, List.cons_append, Nat.ofDigitChars_cons]
      exact ih

end Decimal

/-! ### Names of trials -/

/-- What stands behind the last dash of a name, or all of the name where it has none. -/
def IsLastPart (name part : List Char) : Prop :=
  '-' ∉ part ∧ (name = part ∨ ∃ before, name = before ++ '-' :: part)

theorem isLastPart_iff {name part : List Char} :
    IsLastPart name part ↔ Text.afterLast '-' name = part :=
  Text.afterLast_eq_iff.symm

/-- The number of a trial is what stands behind the last hyphen, if that is read as a number that
fits in sixty-four bits. -/
theorem parseTrialNumber_eq_ok_iff {name : String} {n : Nat} :
    parseTrialNumber name = .ok n ↔
      Decimal.readDigits? 10 (Text.afterLast '-' name.toList) = some n ∧ n < 2 ^ 64 := by
  rw [parseTrialNumber]
  cases Decimal.readDigits? 10 (Text.afterLast '-' name.toList) with
  | none => simp
  | some number =>
      have hbound : twoTo 64 = 2 ^ 64 := rfl
      by_cases hn : number < 2 ^ 64
      · simp only [hbound, if_pos hn, Except.ok.injEq, Option.some.injEq]
        grind
      · simp only [hbound, if_neg hn, Option.some.injEq, reduceCtorEq, false_iff, not_and]
        rintro rfl
        exact hn

theorem ok_or_invalid_parseTrialNumber (name : String) :
    (∃ n, parseTrialNumber name = .ok n) ∨
      parseTrialNumber name = .error (.invalidTrialIdentifier name) := by
  rw [parseTrialNumber]
  split
  · split
    · exact .inl ⟨_, rfl⟩
    · exact .inr rfl
  · exact .inr rfl

/-- The digits of a number, filled with zeros, are a decimal number with its value. -/
theorem readDigits?_paddedDigits (n : Nat) :
    Decimal.readDigits? 10 (Trial.paddedDigits n) = some n := by
  refine Decimal.readDigits?_ten_eq_some_iff.mpr ⟨?_, fun c hc => ?_, ?_⟩
  · exact List.append_ne_nil_of_right_ne_nil _ Nat.toDigits_ne_nil
  · rcases List.mem_append.mp hc with hc | hc
    · rw [List.eq_of_mem_replicate hc]
      rfl
    · exact Nat.isDigit_of_mem_toDigits (by decide) (by decide) hc
  · rw [Trial.paddedDigits, Decimal.ofDigitChars_replicate_zero_append]
    exact Nat.ofDigitChars_ten_toDigits

/-- Whatever the name of the experiment is, the last part of the name of a trial is its number. -/
theorem afterLast_name_ofItem (e : Experiment) (item : TrialItem) :
    Text.afterLast '-' (Trial.ofItem e item).name.toList = Trial.paddedDigits item.number := by
  obtain ⟨-, hdigits, -⟩ :=
    Decimal.readDigits?_ten_eq_some_iff.mp (readDigits?_paddedDigits item.number)
  have hdash : '-' ∉ Trial.paddedDigits item.number := fun hmem => by
    cases hdigits _ hmem
  rw [Trial.ofItem, String.toList_ofList]
  exact Text.afterLast_eq_iff.mpr ⟨hdash, .inr ⟨_, rfl⟩⟩

/-- A name is read as a number exactly if its last part consists of ASCII digits with that value, at
least one and with any zeros in front, and the value has 64 bits. Every other name is refused, and
the refusal bears the name. The names that are made for trials are read as their numbers. -/
theorem parseTrialNumber_exact :
    (∀ (name : String) (n : Nat), parseTrialNumber name = .ok n ↔
      ∃ part, IsLastPart name.toList part ∧ part ≠ [] ∧ (∀ c ∈ part, c.isDigit = true) ∧
        Nat.ofDigitChars 10 part 0 = n ∧ n < 2 ^ 64) ∧
    (∀ name : String, (∃ n, parseTrialNumber name = .ok n) ∨
      parseTrialNumber name = .error (.invalidTrialIdentifier name)) ∧
    ∀ (e : Experiment) (item : TrialItem), item.number < 2 ^ 64 →
      parseTrialNumber (Trial.ofItem e item).name = .ok item.number := by
  refine ⟨fun name n => ?_, ok_or_invalid_parseTrialNumber, fun e item hnumber => ?_⟩
  · simp only [parseTrialNumber_eq_ok_iff, Decimal.readDigits?_ten_eq_some_iff, isLastPart_iff]
    grind
  · rw [parseTrialNumber_eq_ok_iff, afterLast_name_ofItem]
    exact ⟨readDigits?_paddedDigits item.number, hnumber⟩

/-- The name of the experiment may end in a dash and hold a number, and the number of the trial may
be the greatest one. The next number is refused, with zeros in front or without. -/
theorem parseTrialNumber_exact_greatest :
    let e : Experiment := {
      apiVersion := "v1", kind := "Experiment", metadata := { name := "web-2-canary-" } }
    let item : TrialItem := { number := 18446744073709551615 }
    item.number < 2 ^ 64 ∧ (Trial.ofItem e item).name = "web-2-canary--18446744073709551615" ∧
      parseTrialNumber (Trial.ofItem e item).name = .ok item.number ∧
      ¬ ∃ n, parseTrialNumber "web-018446744073709551616" = .ok n := by
  intro e item
  have hnumber : item.number < 2 ^ 64 := by decide
  have hname : (Trial.ofItem e item).name = "web-2-canary--18446744073709551615" := by
    decide +kernel
  have hrefused : parseTrialNumber "web-018446744073709551616" =
      .error (.invalidTrialIdentifier "web-018446744073709551616") := by
    decide +kernel
  refine ⟨hnumber, hname, parseTrialNumber_exact.2.2 e item hnumber, ?_⟩
  rintro ⟨n, hn⟩
  rw [hrefused] at hn
  cases hn

end ClusterTuning
