import ClusterTuning.Text.Blank
import ClusterTuning.Text.Pieces
import Mathlib.Data.List.TakeDrop
import Mathlib.Data.List.TakeWhile

/-!
# ClusterTuning.Proofs.Text

**What cutting and searching text say about the text.**

The functions of `Text` walk along the characters. Here they are told by what the text is made of: a
last occurrence by the parts on both sides of it, and any occurrence as an infix.

## Main statements

* `afterLast_eq_iff`: what stands behind the last occurrence of a character.
* `occursIn_iff`: a text occurs in another one as an infix of it.
-/

namespace ClusterTuning.Text

/-! ### The last occurrence of a character -/

section LastOccurrence

variable {c : Char} {s before after : List Char}

theorem cutAtLast_append (before : List Char) (h : c ∉ after) :
    cutAtLast c (before ++ c :: after) = some (before, after) := by
  have hall : ∀ d ∈ after.reverse, (d != c) = true := by
    intro d hd
    simpa using fun heq : d = c => h (heq ▸ List.mem_reverse.mp hd)
  rw [cutAtLast, List.span_eq_takeWhile_dropWhile, List.reverse_append, List.reverse_cons,
    List.append_assoc, List.takeWhile_append_of_pos hall, List.dropWhile_append_of_pos hall]
  simp

theorem cutAtLast_of_not_mem (h : c ∉ s) : cutAtLast c s = none := by
  have hall : s.reverse.dropWhile (fun d => d != c) = [] := by
    refine List.dropWhile_eq_nil_iff.mpr fun d hd => ?_
    simpa using fun heq : d = c => h (heq ▸ List.mem_reverse.mp hd)
  rw [cutAtLast, List.span_eq_takeWhile_dropWhile, hall]

/-- Text with the character falls into what stands before its last occurrence, and the rest. -/
theorem exists_lastOccurrence (h : c ∈ s) :
    ∃ before after, s = before ++ c :: after ∧ c ∉ after := by
  obtain ⟨back, front, hsplit, hback⟩ := List.eq_append_cons_of_mem (List.mem_reverse.mpr h)
  refine ⟨front.reverse, back.reverse, ?_, by simpa using hback⟩
  rw [← List.reverse_reverse s, hsplit]
  simp

theorem not_mem_of_cutAtLast_eq_none (h : cutAtLast c s = none) : c ∉ s := by
  intro hmem
  obtain ⟨before, after, rfl, hafter⟩ := exists_lastOccurrence hmem
  rw [cutAtLast_append before hafter] at h
  cases h

/-- There is nothing to cut at behind the last place to cut at. -/
theorem not_mem_of_cutAtLast (h : cutAtLast c s = some (before, after)) : c ∉ after := by
  by_cases hmem : c ∈ s
  · obtain ⟨front, back, rfl, hback⟩ := exists_lastOccurrence hmem
    rw [cutAtLast_append front hback] at h
    cases h
    exact hback
  · rw [cutAtLast_of_not_mem hmem] at h
    cases h

/-- Behind the last occurrence of a character stands text without it, which goes back to the
character or is all there is. -/
theorem afterLast_eq_iff :
    afterLast c s = after ↔ c ∉ after ∧ (s = after ∨ ∃ before, s = before ++ c :: after) := by
  constructor
  · rintro rfl
    rw [afterLast]
    by_cases hmem : c ∈ s
    · obtain ⟨before, after, rfl, hafter⟩ := exists_lastOccurrence hmem
      rw [cutAtLast_append before hafter]
      exact ⟨hafter, .inr ⟨before, rfl⟩⟩
    · rw [cutAtLast_of_not_mem hmem]
      exact ⟨hmem, .inl rfl⟩
  · rintro ⟨hafter, rfl | ⟨before, rfl⟩⟩
    · rw [afterLast, cutAtLast_of_not_mem hafter]
    · rw [afterLast, cutAtLast_append before hafter]

end LastOccurrence

/-! ### Occurrences of a text -/

theorem startsWith_iff {p s : List Char} : startsWith p s = true ↔ p <+: s := by
  induction p generalizing s with
  | nil => simp [startsWith, dropFront?]
  | cons a p ih =>
      cases s with
      | nil => simp [startsWith, dropFront?]
      | cons b s =>
          rw [List.cons_prefix_cons, ← ih, startsWith, startsWith, dropFront?]
          by_cases hab : a = b <;> simp [hab]

/-- A text occurs in another one as an infix of it. -/
theorem occursIn_iff {p s : List Char} : occursIn p s = true ↔ p <:+: s := by
  induction s with
  | nil => simp [occursIn]
  | cons c s ih => rw [occursIn, Bool.or_eq_true, startsWith_iff, ih, List.infix_cons_iff]

/-- Text falls into what stands before the first occurrence of another text, that text, and the
rest. -/
theorem eq_append_of_cutAt {p s before after : List Char} (h : cutAt p s = some (before, after)) :
    s = before ++ (p ++ after) := by
  induction s generalizing before with
  | nil =>
      rw [cutAt] at h
      split at h
      · rename_i hp
        cases h
        simpa using hp
      · cases h
  | cons c s ih =>
      rw [cutAt] at h
      split at h
      · rename_i rest hrest
        cases h
        rw [List.nil_append]
        exact dropFront?_eq_some hrest
      · obtain ⟨cut, hcut, heq⟩ := Option.map_eq_some_iff.mp h
        cases heq
        exact congrArg (c :: ·) (ih hcut)

/-! ### Text without the blanks at its ends -/

theorem dropEndWhile_isPrefix (p : Char → Bool) (s : List Char) : dropEndWhile p s <+: s := by
  rw [dropEndWhile, ← List.reverse_suffix, List.reverse_reverse]
  exact List.dropWhile_suffix p

theorem trim_isInfix (s : List Char) : trim s <:+: s :=
  (dropEndWhile_isPrefix isBlank _).isInfix.trans (List.dropWhile_suffix isBlank).isInfix

end ClusterTuning.Text
