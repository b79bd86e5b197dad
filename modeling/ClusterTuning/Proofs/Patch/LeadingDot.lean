import ClusterTuning.Patch.LeadingDot
import ClusterTuning.Proofs.Text

/-!
# ClusterTuning.Proofs.Patch.LeadingDot

**Leading dots are taken out, all of them at once, and nothing else is touched.**

The search for a leading dot starts at opening braces, so it leaves text without them as it is. A
text can then be nothing but one tag only if it has the opening braces of a tag.

Behind its braces, the opening of a tag up to the leading dot has no further brace. Openings with a
leading dot therefore never overlap, also not in a row of braces, and the space that takes the place
of a dot cannot begin another one. So the scan from the left finds all of them, and what it gives
is the only text that comes from taking out some dots and has none left
(`eq_withoutLeadingDots_iff`).

## Main statements

* `withoutLeadingDots_eq_self`: text without opening braces stays.
* `openBraces_infix_of_singleExpression?`: a single expression stands behind opening braces.
* `withoutLeadingDots_complete`: a second time there is nothing left to do, and what is kept.
-/

namespace ClusterTuning

namespace Patch

/-- Text without opening braces stays as it is. -/
theorem withoutLeadingDots_eq_self {s : List Char} (h : ¬ openBraces <:+: s) :
    withoutLeadingDots s = s := by
  induction s with
  | nil => rw [withoutLeadingDots]
  | cons c s ih =>
      cases s with
      | nil => rw [withoutLeadingDots]
      | cons d s =>
          have hbraces : ¬ (c = '{' ∧ d = '{') := by
            rintro ⟨rfl, rfl⟩
            exact h (List.prefix_append openBraces s).isInfix
          rw [withoutLeadingDots, if_neg hbraces, ih fun hoccurs => h (hoccurs.trans
            (List.suffix_cons c _).isInfix)]

/-- A text that is a single expression has opening braces. -/
theorem openBraces_infix_of_singleExpression? {text expression : List Char}
    (h : singleExpression? text = some expression) : openBraces <:+: text := by
  by_contra hnone
  have htrim : ¬ openBraces <:+: Text.trim text := fun hoccurs =>
    hnone (hoccurs.trans (Text.trim_isInfix text))
  rw [singleExpression?, withoutLeadingDots_eq_self htrim] at h
  split at h
  · cases h
  · rename_i rest hrest
    have hfront := Text.dropFront?_eq_some hrest
    exact htrim (hfront ▸ (List.prefix_append _ _).isInfix)

/-! ### The opening of a tag with a leading dot -/

/-- What may stand between the opening braces of a tag and its leading dot, and behind the dot: a
dash or none, blanks, and the first character of a name. -/
structure DottedOpening (dash blanks : List Char) (c : Char) : Prop where
  /-- There is one dash at most. -/
  dash_forms : dash = [] ∨ dash = ['-']
  /-- The blanks are blank. -/
  isBlank_of_mem : ∀ b ∈ blanks, Text.isBlank b = true
  /-- The name starts with an ASCII letter or an underscore. -/
  letter : ('a' ≤ c ∧ c ≤ 'z') ∨ ('A' ≤ c ∧ c ≤ 'Z') ∨ c = '_'

/-- The text is a tag with a leading dot, and what follows. -/
def OpensWithDot (s : List Char) : Prop :=
  ∃ dash blanks c rest, DottedOpening dash blanks c ∧
    s = openBraces ++ (dash ++ (blanks ++ '.' :: c :: rest))

/-- A tag with a leading dot stands somewhere in the text. -/
def HasLeadingDot (s : List Char) : Prop :=
  ∃ t, t <:+ s ∧ OpensWithDot t

/-- The second text is the first one with some leading dots taken out: where one is, the dot is
gone and one space stands for the blanks before it. All other characters are kept in order. -/
inductive Undotted : List Char → List Char → Prop where
  /-- The end of the text. -/
  | nil : Undotted [] []
  /-- A character that is kept. -/
  | keep (c : Char) {s t : List Char} (h : Undotted s t) : Undotted (c :: s) (c :: t)
  /-- A leading dot that is taken out. -/
  | tag {dash blanks : List Char} {c : Char} {s t : List Char}
      (hopening : DottedOpening dash blanks c) (h : Undotted s t) :
      Undotted (openBraces ++ (dash ++ (blanks ++ '.' :: c :: s)))
        (openBraces ++ (dash ++ ' ' :: c :: t))

theorem startsName_iff {c : Char} :
    startsName c = true ↔ ('a' ≤ c ∧ c ≤ 'z') ∨ ('A' ≤ c ∧ c ≤ 'Z') ∨ c = '_' := by
  have hranges : startsName c = ((decide ('A' ≤ c ∧ c ≤ 'Z') ||
      (decide ('a' ≤ c) && decide (c ≤ 'z'))) || c == '_') := rfl
  simp only [hranges, Bool.or_eq_true, Bool.and_eq_true, decide_eq_true_eq, beq_iff_eq]
  tauto

theorem isBlank_eq_false_of_startsName {c : Char} (h : startsName c = true) :
    Text.isBlank c = false := by
  have hrange : (65 ≤ c.toNat ∧ c.toNat ≤ 90) ∨ (97 ≤ c.toNat ∧ c.toNat ≤ 122) ∨ c.toNat = 95 := by
    rcases startsName_iff.mp h with ⟨hlow, hhigh⟩ | ⟨hlow, hhigh⟩ | rfl
    · exact Or.inr (Or.inl ⟨hlow, hhigh⟩)
    · exact Or.inl ⟨hlow, hhigh⟩
    · exact Or.inr (Or.inr rfl)
  rw [Bool.eq_false_iff]
  intro hblank
  simp only [Text.isBlank, Bool.or_eq_true, Bool.and_eq_true, decide_eq_true_eq,
    beq_iff_eq] at hblank
  omega

theorem dashOf_forms (s : List Char) : dashOf s = [] ∨ dashOf s = ['-'] := by
  unfold dashOf
  split <;> simp

theorem dashOf_append_behindDash (s : List Char) : dashOf s ++ behindDash s = s := by
  unfold dashOf behindDash
  split <;> simp

/-- A dash or none before what does not start with a dash. -/
theorem dashOf_behindDash_append {dash s : List Char} (hdash : dash = [] ∨ dash = ['-'])
    (hs : s.head? ≠ some '-') : dashOf (dash ++ s) = dash ∧ behindDash (dash ++ s) = s := by
  rcases hdash with rfl | rfl
  · cases s with
    | nil => exact ⟨rfl, rfl⟩
    | cons b s =>
        have hb : b ≠ '-' := by simpa using hs
        simp [dashOf, behindDash, hb]
  · exact ⟨rfl, rfl⟩

theorem head?_ne_dash {blanks rest : List Char} (hblanks : ∀ b ∈ blanks, Text.isBlank b = true) :
    (blanks ++ '.' :: rest).head? ≠ some '-' := by
  cases blanks with
  | nil => simp
  | cons b blanks =>
      intro hhead
      obtain rfl : b = '-' := by simpa using hhead
      exact absurd (hblanks '-' List.mem_cons_self) (by decide)

/-- The search for a leading dot finds exactly the openings that have one. -/
theorem leadingDot?_eq_some_iff {s dash rest : List Char} {c : Char} :
    leadingDot? s = some (dash, c, rest) ↔
      ∃ blanks, DottedOpening dash blanks c ∧ s = dash ++ (blanks ++ '.' :: c :: rest) := by
  constructor
  · intro h
    rw [leadingDot?] at h
    split at h
    · rename_i d back hdrop
      split at h
      · rename_i hname
        cases h
        refine ⟨(behindDash s).takeWhile Text.isBlank, ⟨dashOf_forms s, ?_, ?_⟩, ?_⟩
        · exact fun b hb => List.mem_takeWhile_imp hb
        · exact startsName_iff.mp hname
        · rw [← hdrop, List.takeWhile_append_dropWhile, dashOf_append_behindDash]
      · cases h
    · cases h
  · rintro ⟨blanks, ⟨hdash, hblanks, hletter⟩, rfl⟩
    have hname := startsName_iff.mpr hletter
    have hdrop : (blanks ++ '.' :: c :: rest).dropWhile Text.isBlank = '.' :: c :: rest := by
      rw [List.dropWhile_append_of_pos hblanks, List.dropWhile_cons_of_neg (by decide)]
    obtain ⟨hdashOf, hbehind⟩ := dashOf_behindDash_append hdash (head?_ne_dash hblanks)
    rw [leadingDot?, hbehind, hdrop]
    simp [hname, hdashOf]

/-- The space that stands for a dot is followed by a letter. -/
theorem leadingDot?_space {dash blanks : List Char} {c : Char} (h : DottedOpening dash blanks c)
    (rest : List Char) : leadingDot? (dash ++ ' ' :: c :: rest) = none := by
  have hname := startsName_iff.mpr h.letter
  have hdrop : (' ' :: c :: rest).dropWhile Text.isBlank = c :: rest := by
    rw [List.dropWhile_cons_of_pos (by decide),
      List.dropWhile_cons_of_neg (by simp [isBlank_eq_false_of_startsName hname])]
  have hc : c ≠ '.' := by
    rintro rfl
    exact absurd h.letter (by decide)
  have hspace : (' ' :: c :: rest).head? ≠ some '-' := by simp
  obtain ⟨-, hbehind⟩ := dashOf_behindDash_append h.dash_forms hspace
  rw [leadingDot?, hbehind, hdrop]
  split
  · rename_i d rest heq
    exact absurd (List.cons.inj heq).1 hc
  · rfl

/-- There is no brace between the opening braces and the end of an opening with a leading dot. -/
theorem DottedOpening.not_mem {dash blanks : List Char} {c : Char}
    (h : DottedOpening dash blanks c) : '{' ∉ dash ++ (blanks ++ ['.', c]) := by
  have hc : c ≠ '{' := by
    rintro rfl
    exact absurd h.letter (by decide)
  have hblanks : '{' ∉ blanks := fun hmem => absurd (h.isBlank_of_mem _ hmem) (by decide)
  rcases h.dash_forms with rfl | rfl <;> simp [hblanks, hc.symm]

theorem openBraces_append (s : List Char) : openBraces ++ s = '{' :: '{' :: s := rfl

theorem append_letter (dash blanks : List Char) (c : Char) (rest : List Char) :
    dash ++ (blanks ++ '.' :: c :: rest) = dash ++ (blanks ++ ['.', c]) ++ rest := by
  simp

/-- Behind opening braces a tag has a leading dot exactly if the scanner finds one. -/
theorem opensWithDot_braces_iff {s : List Char} :
    OpensWithDot ('{' :: '{' :: s) ↔ (leadingDot? s).isSome = true := by
  constructor
  · rintro ⟨dash, blanks, c, rest, hopening, heq⟩
    have hs : s = dash ++ (blanks ++ '.' :: c :: rest) := by simpa [openBraces] using heq
    rw [leadingDot?_eq_some_iff.mpr ⟨blanks, hopening, hs⟩]
    rfl
  · intro h
    obtain ⟨⟨dash, c, rest⟩, hdot⟩ := Option.isSome_iff_exists.mp h
    obtain ⟨blanks, hopening, rfl⟩ := leadingDot?_eq_some_iff.mp hdot
    exact ⟨dash, blanks, c, rest, hopening, rfl⟩

theorem hasLeadingDot_cons_iff {c : Char} {s : List Char} :
    HasLeadingDot (c :: s) ↔ OpensWithDot (c :: s) ∨ HasLeadingDot s := by
  simp [HasLeadingDot, List.suffix_cons_iff, or_and_right, exists_or]

theorem not_hasLeadingDot_nil : ¬ HasLeadingDot [] := by
  rintro ⟨t, hsuffix, dash, blanks, c, rest, -, rfl⟩
  exact absurd hsuffix.length_le (by simp [openBraces])

/-- A tag starts with two braces. -/
theorem OpensWithDot.exists_eq {s : List Char} (h : OpensWithDot s) : ∃ t, s = '{' :: '{' :: t := by
  obtain ⟨dash, blanks, c, rest, -, rfl⟩ := h
  exact ⟨_, rfl⟩

theorem not_opensWithDot_of_ne {c : Char} (hc : c ≠ '{') (s : List Char) :
    ¬ OpensWithDot (c :: s) := by
  intro h
  obtain ⟨t, ht⟩ := h.exists_eq
  cases ht
  exact hc rfl

theorem append_ne_brace_cons {front s t : List Char} (hne : front ≠ []) (hfront : '{' ∉ front) :
    front ++ s ≠ '{' :: t := by
  cases front with
  | nil => exact absurd rfl hne
  | cons c front =>
      intro heq
      obtain ⟨rfl, -⟩ := List.cons.inj heq
      exact hfront List.mem_cons_self

theorem not_opensWithDot_of_not_mem {c : Char} {front s : List Char} (hne : front ≠ [])
    (hfront : '{' ∉ front) : ¬ OpensWithDot (c :: (front ++ s)) := by
  intro h
  obtain ⟨t, ht⟩ := h.exists_eq
  exact append_ne_brace_cons hne hfront (List.cons.inj ht).2

/-- Text without braces in front of a text adds no leading dot to it. -/
theorem hasLeadingDot_append_iff {front s : List Char} (hfront : '{' ∉ front) :
    HasLeadingDot (front ++ s) ↔ HasLeadingDot s := by
  induction front with
  | nil => rfl
  | cons c front ih =>
      rw [List.mem_cons, not_or] at hfront
      rw [List.cons_append, hasLeadingDot_cons_iff, ih hfront.2]
      exact or_iff_right (not_opensWithDot_of_ne (Ne.symm hfront.1) _)

/-! ### One step of the scan -/

/-- At a leading dot the scan takes it out and goes on behind the first character of the name. -/
theorem withoutLeadingDots_tag {dash blanks : List Char} {c : Char}
    (h : DottedOpening dash blanks c) (rest : List Char) :
    withoutLeadingDots (openBraces ++ (dash ++ (blanks ++ '.' :: c :: rest))) =
      openBraces ++ (dash ++ ' ' :: c :: withoutLeadingDots rest) := by
  have hdot : leadingDot? (dash ++ (blanks ++ '.' :: c :: rest)) = some (dash, c, rest) :=
    leadingDot?_eq_some_iff.mpr ⟨blanks, h, rfl⟩
  rw [openBraces_append, openBraces_append, withoutLeadingDots, if_pos ⟨rfl, rfl⟩]
  split
  · rename_i found d back hfound
    rw [hdot] at hfound
    cases hfound
    rfl
  · rename_i hfound
    rw [hdot] at hfound
    cases hfound

/-- Anywhere else the scan keeps one character. -/
theorem withoutLeadingDots_cons {c : Char} {s : List Char} (h : ¬ OpensWithDot (c :: s)) :
    withoutLeadingDots (c :: s) = c :: withoutLeadingDots s := by
  cases s with
  | nil => simp [withoutLeadingDots]
  | cons d s =>
      rw [withoutLeadingDots]
      split
      · rename_i hbraces
        obtain ⟨rfl, rfl⟩ := hbraces
        split
        · rename_i hfound
          exact absurd (opensWithDot_braces_iff.mpr (Option.isSome_of_eq_some hfound)) h
        · rfl
      · rfl

/-- Induction along the scan: a character that is kept, or an opening with a leading dot. -/
theorem scan_induction {motive : List Char → Prop} (nil : motive [])
    (keep : ∀ c s, ¬ OpensWithDot (c :: s) → motive s → motive (c :: s))
    (tag : ∀ dash blanks c s, DottedOpening dash blanks c → motive s →
      motive (openBraces ++ (dash ++ (blanks ++ '.' :: c :: s)))) (s : List Char) : motive s := by
  induction hlength : s.length using Nat.strong_induction_on generalizing s with
  | _ n ih =>
      cases s with
      | nil => exact nil
      | cons c s =>
          by_cases hopens : OpensWithDot (c :: s)
          · obtain ⟨dash, blanks, d, rest, hopening, heq⟩ := hopens
            rw [heq] at hlength ⊢
            refine tag dash blanks d rest hopening (ih rest.length ?_ rest rfl)
            rw [← hlength]
            simp only [List.length_append, List.length_cons]
            omega
          · refine keep c s hopens (ih s.length ?_ s rfl)
            rw [← hlength]
            exact Nat.lt_succ_self _

/-! ### What the scan keeps, and what it leaves -/

theorem undotted_refl (s : List Char) : Undotted s s := by
  induction s with
  | nil => exact Undotted.nil
  | cons c s ih => exact Undotted.keep c ih

/-- Leading dots are all that is taken out. -/
theorem undotted_withoutLeadingDots (s : List Char) : Undotted s (withoutLeadingDots s) := by
  induction s using scan_induction with
  | nil =>
      rw [withoutLeadingDots]
      exact Undotted.nil
  | keep c s hopens ih =>
      rw [withoutLeadingDots_cons hopens]
      exact Undotted.keep c ih
  | tag dash blanks c s hopening ih =>
      rw [withoutLeadingDots_tag hopening]
      exact Undotted.tag hopening ih

/-- Characters other than braces go through the scan. -/
theorem withoutLeadingDots_append {front : List Char} (hfront : '{' ∉ front) (s : List Char) :
    withoutLeadingDots (front ++ s) = front ++ withoutLeadingDots s := by
  induction front with
  | nil => rfl
  | cons c front ih =>
      rw [List.mem_cons, not_or] at hfront
      rw [List.cons_append, withoutLeadingDots_cons (not_opensWithDot_of_ne (Ne.symm hfront.1) _),
        ih hfront.2, List.cons_append]

/-- Characters other than braces at the front of what the scan gives stood at the front of the
text. -/
theorem exists_of_withoutLeadingDots_eq_append {front s t : List Char} (hfront : '{' ∉ front)
    (h : withoutLeadingDots s = front ++ t) : ∃ rest, s = front ++ rest := by
  induction front generalizing s with
  | nil => exact ⟨s, rfl⟩
  | cons c front ih =>
      rw [List.mem_cons, not_or] at hfront
      cases s with
      | nil => simp [withoutLeadingDots] at h
      | cons d s =>
          have hopens : ¬ OpensWithDot (d :: s) := by
            rintro ⟨dash, blanks, e, rest, hopening, heq⟩
            rw [heq, withoutLeadingDots_tag hopening] at h
            exact hfront.1 (List.cons.inj h).1
          rw [withoutLeadingDots_cons hopens] at h
          obtain ⟨rfl, hback⟩ := List.cons.inj h
          obtain ⟨rest, rfl⟩ := ih hfront.2 hback
          exact ⟨rest, rfl⟩

/-- A character before what the scan gives makes no leading dot that was not there. -/
theorem opensWithDot_of_withoutLeadingDots {c : Char} {s : List Char}
    (h : OpensWithDot (c :: withoutLeadingDots s)) : OpensWithDot (c :: s) := by
  obtain ⟨dash, blanks, d, rest, hopening, heq⟩ := h
  rw [append_letter, openBraces_append] at heq
  obtain ⟨rfl, hs⟩ := List.cons.inj heq
  by_cases hopens : OpensWithDot s
  · -- a brace would stand where the opening has none
    obtain ⟨dash', blanks', e, more, hother, rfl⟩ := hopens
    rw [withoutLeadingDots_tag hother, openBraces_append] at hs
    obtain ⟨-, hback⟩ := List.cons.inj hs
    exact absurd hback.symm (append_ne_brace_cons (by simp) hopening.not_mem)
  · cases s with
    | nil => simp [withoutLeadingDots] at hs
    | cons a s =>
        rw [withoutLeadingDots_cons hopens] at hs
        obtain ⟨rfl, hback⟩ := List.cons.inj hs
        obtain ⟨back, rfl⟩ := exists_of_withoutLeadingDots_eq_append hopening.not_mem hback
        exact ⟨dash, blanks, d, back, hopening, by simp [openBraces]⟩

/-- A leading dot that begins with a character is still there when the text behind the character is
scanned, as nothing in the opening changes. -/
theorem opensWithDot_withoutLeadingDots {c : Char} {s : List Char} (h : OpensWithDot (c :: s)) :
    OpensWithDot (c :: withoutLeadingDots s) := by
  obtain ⟨dash, blanks, d, rest, hopening, heq⟩ := h
  rw [append_letter, openBraces_append] at heq
  obtain ⟨rfl, rfl⟩ := List.cons.inj heq
  have hbrace := hopening.not_mem
  refine ⟨dash, blanks, d, withoutLeadingDots rest, hopening, ?_⟩
  rw [withoutLeadingDots_cons (not_opensWithDot_of_not_mem (by simp) hbrace),
    withoutLeadingDots_append hbrace, append_letter dash blanks d (withoutLeadingDots rest),
    openBraces_append]

/-- Where a dot was taken out, a space stands before a letter, and no tag has a leading dot. -/
theorem not_hasLeadingDot_tag {dash blanks : List Char} {c : Char}
    (h : DottedOpening dash blanks c) {t : List Char} (ht : ¬ HasLeadingDot t) :
    ¬ HasLeadingDot (openBraces ++ (dash ++ ' ' :: c :: t)) := by
  have hbrace : '{' ∉ dash ++ [' ', c] := by
    have hmem := h.not_mem
    simp only [List.mem_append, List.mem_cons, not_or] at hmem ⊢
    exact ⟨hmem.1, by decide, hmem.2.2.2.1, List.not_mem_nil⟩
  have hsplit : dash ++ ' ' :: c :: t = dash ++ [' ', c] ++ t := by simp
  rw [openBraces_append, hasLeadingDot_cons_iff, hasLeadingDot_cons_iff, opensWithDot_braces_iff,
    leadingDot?_space h, hsplit, hasLeadingDot_append_iff hbrace]
  rintro (hfirst | hsecond | hrest)
  · cases hfirst
  · exact not_opensWithDot_of_not_mem (by simp) hbrace hsecond
  · exact ht hrest

/-- No leading dot is left, and taking one out makes no other. -/
theorem not_hasLeadingDot_withoutLeadingDots (s : List Char) :
    ¬ HasLeadingDot (withoutLeadingDots s) := by
  induction s using scan_induction with
  | nil =>
      rw [withoutLeadingDots]
      exact not_hasLeadingDot_nil
  | keep c s hopens ih =>
      rw [withoutLeadingDots_cons hopens, hasLeadingDot_cons_iff]
      rintro (hagain | hrest)
      · exact hopens (opensWithDot_of_withoutLeadingDots hagain)
      · exact ih hrest
  | tag dash blanks c s hopening ih =>
      rw [withoutLeadingDots_tag hopening]
      exact not_hasLeadingDot_tag hopening ih

/-- Who takes out some dots and leaves none does what the scan does. -/
theorem Undotted.eq_withoutLeadingDots {s t : List Char} (h : Undotted s t)
    (hnone : ¬ HasLeadingDot t) : t = withoutLeadingDots s := by
  induction h with
  | nil => rw [withoutLeadingDots]
  | @keep c s t h ih =>
      rw [hasLeadingDot_cons_iff, not_or] at hnone
      obtain rfl := ih hnone.2
      have hopens : ¬ OpensWithDot (c :: s) := fun h => hnone.1 (opensWithDot_withoutLeadingDots h)
      rw [withoutLeadingDots_cons hopens]
  | @tag dash blanks c s t hopening h ih =>
      have hback : ¬ HasLeadingDot t := by
        rintro ⟨back, hsuffix, hback⟩
        refine hnone ⟨back, hsuffix.trans ?_, hback⟩
        exact ⟨openBraces ++ (dash ++ [' ', c]), by simp⟩
      rw [withoutLeadingDots_tag hopening, ih hback]

/-- The text without leading dots is the only one that comes from taking out some of them and has
none left. -/
theorem eq_withoutLeadingDots_iff {s t : List Char} :
    t = withoutLeadingDots s ↔ Undotted s t ∧ ¬ HasLeadingDot t := by
  constructor
  · rintro rfl
    exact ⟨undotted_withoutLeadingDots s, not_hasLeadingDot_withoutLeadingDots s⟩
  · rintro ⟨h, hnone⟩
    exact h.eq_withoutLeadingDots hnone

/-- Taking out leading dots once takes out all of them, and a second time changes nothing. -/
theorem withoutLeadingDots_complete (s : List Char) :
    withoutLeadingDots (withoutLeadingDots s) = withoutLeadingDots s ∧
      ¬ HasLeadingDot (withoutLeadingDots s) ∧ Undotted s (withoutLeadingDots s) ∧
      ∀ t, t = withoutLeadingDots s ↔ Undotted s t ∧ ¬ HasLeadingDot t := by
  have hnone := not_hasLeadingDot_withoutLeadingDots s
  have hagain := (undotted_refl (withoutLeadingDots s)).eq_withoutLeadingDots hnone
  exact ⟨hagain.symm, hnone, undotted_withoutLeadingDots s, fun t => eq_withoutLeadingDots_iff⟩

/-- In a row of braces the last two open the tag. -/
example : withoutLeadingDots ['{', '{', '{', '-', '\u00a0', '.', 'a', '.', 'b'] =
    ['{', '{', '{', '-', ' ', 'a', '.', 'b'] := by
  decide +kernel

end Patch

end ClusterTuning
