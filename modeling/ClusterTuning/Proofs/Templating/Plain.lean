import ClusterTuning.Proofs.Text
import ClusterTuning.Templating.Template

/-!
# ClusterTuning.Proofs.Templating.Plain

**What becomes of text whose only tags are comments.**

Such text falls into texts, and the template gives them out one behind the other, whatever the
context. Each comment takes at least its delimiters away, so that text is given out as it stands
only where there is no comment, and no line break at the end either.

## Main statements

* `noTag_iff`: a tag starts at one of three pairs of characters.
* `render_of_texts`: a template of texts gives them out.
* `render_eq_self_iff`: when text without expressions and statements is given out as it stands.
-/

namespace ClusterTuning.Templating

/-! ### Where a tag starts -/

/-- Either a tag starts at the first character of text, or the first tag is that of the rest. -/
theorem cutTag_cons_cases (c : Char) (s : List Char) :
    (∃ d rest tag, c = '{' ∧ s = d :: rest ∧ tagOf? d = some tag ∧
      cutTag (c :: s) = ([], some (tag, rest))) ∨
    (∀ d, (tagOf? d).isSome → ¬ ['{', d] <+: c :: s) ∧
      cutTag (c :: s) = (c :: (cutTag s).1, (cutTag s).2) := by
  by_cases hc : c = '{'
  · subst hc
    cases s with
    | nil =>
        refine .inr ⟨fun d _ hfront => ?_, by simp [cutTag]⟩
        exact absurd hfront.length_le (by simp)
    | cons d rest =>
        cases htag : tagOf? d with
        | some tag => exact .inl ⟨d, rest, tag, rfl, rfl, htag, by simp [cutTag, htag]⟩
        | none =>
            refine .inr ⟨fun e he hfront => ?_, by simp [cutTag, htag]⟩
            obtain rfl : e = d := by simpa using hfront
            rw [htag] at he
            cases he
  · refine .inr ⟨fun d _ hfront => ?_, by simp [cutTag, hc]⟩
    exact hc (List.cons_prefix_cons.mp hfront).1.symm

/-- The text is cut in front of a delimiter, and nothing of it is lost. -/
theorem cutTag_eq_some {s text rest : List Char} {tag : Tag}
    (h : cutTag s = (text, some (tag, rest))) :
    ∃ d, tagOf? d = some tag ∧ s = text ++ '{' :: d :: rest := by
  induction s generalizing text with
  | nil => cases h
  | cons c s ih =>
      obtain ⟨d, more, found, rfl, rfl, hfound, hcut⟩ | ⟨-, hcut⟩ := cutTag_cons_cases c s
      · rw [hcut] at h
        cases h
        exact ⟨d, hfound, rfl⟩
      · rw [hcut] at h
        obtain ⟨rfl, hrest⟩ := Prod.mk.inj h
        obtain ⟨d, hd, hs⟩ := ih (Prod.ext rfl hrest)
        exact ⟨d, hd, congrArg (c :: ·) hs⟩

/-- Text with a delimiter in it has a tag. -/
theorem noTag_of_occurs {s : List Char} {d : Char} (htag : (tagOf? d).isSome)
    (h : ['{', d] <:+: s) : noTag s = false := by
  induction s with
  | nil => exact absurd h.length_le (by simp)
  | cons c s ih =>
      obtain ⟨_, _, _, -, -, -, hcut⟩ | ⟨hnone, hcut⟩ := cutTag_cons_cases c s
      · rw [noTag, hcut, Option.isNone_some]
      · rw [noTag, hcut]
        obtain hfront | hoccurs := List.infix_cons_iff.mp h
        · exact absurd hfront (hnone d htag)
        · exact ih hoccurs

/-- Neither an expression nor a statement starts in the text. -/
structure NoCode (s : List Char) : Prop where
  /-- No expression starts. -/
  expression : ¬ ['{', '{'] <:+: s
  /-- No statement starts. -/
  statement : ¬ ['{', '%'] <:+: s

theorem NoCode.part {s t : List Char} (h : NoCode s) (hpart : t <:+: s) : NoCode t :=
  ⟨fun hoccurs => h.expression (hoccurs.trans hpart),
    fun hoccurs => h.statement (hoccurs.trans hpart)⟩

/-- Text without expressions and statements has no tags but comments. -/
theorem NoCode.eq_comment {s : List Char} (h : NoCode s) {d : Char} {tag : Tag}
    (htag : tagOf? d = some tag) (hoccurs : ['{', d] <:+: s) : d = '#' ∧ tag = .comment := by
  rw [tagOf?] at htag
  split_ifs at htag with hbrace hpercent hhash
  · exact absurd (hbrace ▸ hoccurs) h.expression
  · exact absurd (hpercent ▸ hoccurs) h.statement
  · exact ⟨hhash, (Option.some.inj htag).symm⟩

/-- A tag starts at an opening brace with another one, a percent sign or a hash behind it. -/
theorem noTag_iff {s : List Char} : noTag s = true ↔ NoCode s ∧ ¬ ['{', '#'] <:+: s := by
  constructor
  · intro h
    have hnone : ∀ d, (tagOf? d).isSome → ¬ ['{', d] <:+: s := by
      intro d htag hoccurs
      rw [noTag_of_occurs htag hoccurs] at h
      cases h
    exact ⟨⟨hnone '{' rfl, hnone '%' rfl⟩, hnone '#' rfl⟩
  · rintro ⟨hcode, hcomment⟩
    cases hcut : cutTag s with
    | mk text found =>
        cases found with
        | none => rw [noTag, hcut, Option.isNone_none]
        | some tagged =>
            obtain ⟨d, hd, rfl⟩ := cutTag_eq_some hcut
            have hoccurs : ['{', d] <:+: text ++ '{' :: d :: tagged.2 :=
              ⟨text, tagged.2, by simp⟩
            obtain ⟨rfl, -⟩ := hcode.eq_comment hd hoccurs
            exact absurd hoccurs hcomment

/-! ### Templates of texts -/

/-- The tokens are nothing but texts, up to their end or to a fault. -/
inductive Texts : List Token → Except Fault (List (List Char)) → Prop where
  /-- No more tokens. -/
  | nil : Texts [] (.ok [])
  /-- A fault ends the tokens. -/
  | broken (fault : Fault) (rest : List Token) : Texts (.broken fault :: rest) (.error fault)
  /-- A text before others. -/
  | text (s : List Char) {rest : List Token} {result : Except Fault (List (List Char))}
      (hrest : Texts rest result) : Texts (.text s :: rest) (result.map (s :: ·))

/-- Texts are read as statements that give them out. -/
theorem body_of_texts {tokens : List Token} {result : Except Fault (List (List Char))}
    (h : Texts tokens result) {fuel depth : Nat} (hfuel : tokens.length < fuel)
    (before : List Statement) :
    (body fuel depth [] before).run tokens =
      result.map fun texts => (before.reverse ++ texts.map .text, []) := by
  induction h generalizing fuel before with
  | nil =>
      obtain ⟨fuel, rfl⟩ := Nat.exists_eq_add_one_of_ne_zero (Nat.ne_of_gt hfuel)
      rw [body]
      exact congrArg (fun statements => Except.ok (statements, [])) (List.append_nil _).symm
  | broken fault rest =>
      obtain ⟨fuel, rfl⟩ := Nat.exists_eq_add_one_of_ne_zero (Nat.ne_zero_of_lt hfuel)
      rw [body]
      rfl
  | @text s rest result _ ih =>
      obtain ⟨fuel, rfl⟩ := Nat.exists_eq_add_one_of_ne_zero (Nat.ne_zero_of_lt hfuel)
      calc (body (fuel + 1) depth [] before).run (.text s :: rest)
          = (body fuel depth [] (.text s :: before)).run rest := by
            rw [body]
            rfl
        _ = result.map fun texts => ((Statement.text s :: before).reverse ++ texts.map .text, []) :=
            ih (Nat.lt_of_succ_lt_succ hfuel) _
        _ = (result.map (s :: ·)).map fun texts => (before.reverse ++ texts.map .text, []) := by
            cases result <;> simp [Except.map]

/-- Texts alone are printed one behind the other, and leave the scope and the memory. -/
theorem runAll_texts (again : RunAgain) (scope : Scope) (texts : List (List Char))
    (memory : Memory) :
    (runAll again scope (texts.map .text)).run memory = .ok ((texts.flatten, scope), memory) := by
  induction texts with
  | nil =>
      rw [List.map_nil, runAll]
      rfl
  | cons s rest ih =>
      rw [List.map_cons, runAll, run]
      simp only [pure_bind, StateT.run_bind, ih]
      rfl

/-- A template of texts gives them out, whatever the context. -/
theorem render_of_texts (context : List (String × Datum)) {s : List Char}
    {result : Except Fault (List (List Char))} (h : Texts (tokensOf s) result) :
    render context s = result.map List.flatten := by
  have hread : (body (fuelFor (tokensOf s)) nestingLimit [] []).run (tokensOf s) =
      result.map fun texts => (texts.map .text, []) :=
    body_of_texts h (by rw [fuelFor]; omega) []
  cases result with
  | error fault =>
      rw [render, readTemplate, hread]
      rfl
  | ok texts =>
      have hstatements : readTemplate s = .ok (texts.map .text) := by
        rw [readTemplate, hread]
        rfl
      rw [render, hstatements]
      change Except.bind (Except.map Prod.fst ((runAll (runAgain frameLimit) _ _).run _)) _ = _
      rw [runAll_texts]
      rfl

/-! ### Comments -/

/-- The tokens are texts of at most `n` characters together, if there is no fault. -/
def TextsWithin (n : Nat) (tokens : List Token) : Prop :=
  ∃ result, Texts tokens result ∧ ∀ texts, result = .ok texts → texts.flatten.length ≤ n

namespace TextsWithin

theorem nil (n : Nat) : TextsWithin n [] :=
  ⟨_, Texts.nil, fun _ h => by cases h; exact Nat.zero_le n⟩

theorem broken (n : Nat) (fault : Fault) (rest : List Token) :
    TextsWithin n (.broken fault :: rest) :=
  ⟨_, Texts.broken fault rest, fun _ h => by cases h⟩

theorem mono {m n : Nat} {tokens : List Token} (h : TextsWithin m tokens) (hle : m ≤ n) :
    TextsWithin n tokens := by
  obtain ⟨result, htexts, hlength⟩ := h
  exact ⟨result, htexts, fun texts hok => (hlength texts hok).trans hle⟩

theorem text_append {n : Nat} {tokens : List Token} (h : TextsWithin n tokens) (s : List Char) :
    TextsWithin (s.length + n) (textToken s ++ tokens) := by
  rw [textToken]
  cases s with
  | nil => exact h.mono (Nat.le_add_left _ _)
  | cons c s =>
      obtain ⟨result, htexts, hlength⟩ := h
      refine ⟨_, Texts.text (c :: s) htexts, fun texts hok => ?_⟩
      cases result with
      | error fault => cases hok
      | ok rest =>
          cases hok
          rw [List.flatten_cons, List.length_append]
          exact Nat.add_le_add_left (hlength rest rfl) _

end TextsWithin

/-- The number of characters besides those of the first delimiter. -/
def besideTag (s : List Char) : Nat :=
  (cutTag s).1.length + ((cutTag s).2.map fun found => found.2.length).getD 0

theorem besideTag_eq_of_noTag {s : List Char} (h : noTag s = true) : besideTag s = s.length := by
  rw [besideTag, cutTag_fst_of_noTag h, Option.isNone_iff_eq_none.mp h]
  rfl

/-- The delimiter of a tag takes characters of its own. -/
theorem besideTag_lt {s : List Char} (h : noTag s = false) : besideTag s < s.length := by
  rw [noTag] at h
  cases hcut : cutTag s with
  | mk text found =>
      cases found with
      | none =>
          rw [hcut] at h
          cases h
      | some found =>
          obtain ⟨d, -, hs⟩ := cutTag_eq_some hcut
          have hlength := congrArg List.length hs
          simp only [besideTag, hcut, Option.map_some, Option.getD_some]
          simp only [List.length_append, List.length_cons] at hlength
          omega

theorem besideTag_le (s : List Char) : besideTag s ≤ s.length := by
  cases h : noTag s with
  | true => exact (besideTag_eq_of_noTag h).le
  | false => exact (besideTag_lt h).le

theorem leadingTrim_isSuffix (s : List Char) : (leadingTrim s).2 <:+ s := by
  rw [leadingTrim.eq_def]
  split
  · exact List.suffix_cons _ _
  · exact List.suffix_cons _ _
  · exact List.suffix_refl _

theorem applyStart_isSuffix (trim : Trim) (s : List Char) : trim.applyStart s <:+ s := by
  rw [Trim.applyStart]
  split
  · exact List.dropWhile_suffix _
  · exact List.suffix_refl s

theorem length_applyEnd_le (trim : Trim) (s : List Char) : (trim.applyEnd s).length ≤ s.length := by
  rw [Trim.applyEnd]
  split
  · exact (Text.dropEndWhile_isPrefix _ s).length_le
  · exact le_rfl

/-- A comment gives nothing out, and the text behind it is scanned on. -/
theorem textsWithin_comment (fuel : Nat) {s : List Char}
    (hscan : ∀ (trim : Trim) (tail : List Char), tail <:+ s →
      TextsWithin (besideTag (trim.applyStart tail)) (scan fuel (.outside trim) tail)) :
    TextsWithin s.length
      (match Text.cutAt ['#', '}'] s with
        | none => [.broken .syntaxError]
        | some (comment, tail) =>
          scan fuel (.outside (if comment.getLast? = some '-' then .drop else .keep)) tail) := by
  split
  · exact TextsWithin.broken _ _ _
  · rename_i comment tail hcut
    have htail : tail <:+ s := ⟨comment ++ ['#', '}'], by simp [Text.eq_append_of_cutAt hcut]⟩
    refine (hscan _ tail htail).mono ?_
    exact (besideTag_le _).trans ((applyStart_isSuffix _ tail).length_le.trans htail.length_le)

/-- Text whose only tags are comments is cut into texts, which have no characters of the first
delimiter. -/
theorem textsWithin_scan (fuel : Nat) (trim : Trim) {s : List Char} (hcode : NoCode s) :
    TextsWithin (besideTag (trim.applyStart s)) (scan fuel (.outside trim) s) := by
  induction fuel generalizing trim s with
  | zero => exact TextsWithin.nil _
  | succ fuel ih =>
      cases s with
      | nil => exact TextsWithin.nil _
      | cons c s =>
          have hstart := applyStart_isSuffix trim (c :: s)
          rw [scan]
          generalize hcut : cutTag (trim.applyStart (c :: s)) = cut
          obtain ⟨text, _ | ⟨tag, rest⟩⟩ := cut
          · have htext := (TextsWithin.nil 0).text_append text
            rw [List.append_nil] at htext
            simpa [besideTag, hcut] using htext
          · obtain ⟨d, hd, hs⟩ := cutTag_eq_some hcut
            have hoccurs : ['{', d] <:+: c :: s :=
              .trans ⟨text, rest, by simp [hs]⟩ hstart.isInfix
            obtain ⟨-, rfl⟩ := hcode.eq_comment hd hoccurs
            have hrest : rest <:+ c :: s := .trans ⟨text ++ ['{', d], by simp [hs]⟩ hstart
            have hbehind := leadingTrim_isSuffix rest
            -- what stands behind the comment has no other tags either
            have hcomment := textsWithin_comment fuel fun trim tail htail =>
              ih trim (hcode.part (htail.trans (hbehind.trans hrest)).isInfix)
            simp only [besideTag, hcut, Option.map_some, Option.getD_some]
            refine (hcomment.text_append _).mono ?_
            exact Nat.add_le_add (length_applyEnd_le _ text) hbehind.length_le

/-! ### Text that is given out as it stands -/

/-- Does the text end in a line break? -/
def endsInBreak (s : List Char) : Bool :=
  s.getLast? == some '\n' || s.getLast? == some '\r'

/-- Only a line break at the end is taken away. -/
theorem exists_lastBreak (s : List Char) :
    ∃ ending, withoutLastBreak s ++ ending = s ∧ (ending = [] ↔ endsInBreak s = false) := by
  obtain ⟨r, rfl⟩ : ∃ r, s = r.reverse := ⟨s.reverse, (List.reverse_reverse s).symm⟩
  rw [endsInBreak, withoutLastBreak.eq_def, List.getLast?_reverse, List.reverse_reverse]
  split
  · exact ⟨['\r', '\n'], by simp⟩
  · exact ⟨['\n'], by simp⟩
  · exact ⟨['\r'], by simp⟩
  · rename_i hlf hcr
    refine ⟨[], List.append_nil _, iff_of_true rfl ?_⟩
    cases r with
    | nil => rfl
    | cons c r =>
        have hn : c ≠ '\n' := fun h => hlf r (by rw [h])
        have hr : c ≠ '\r' := fun h => hcr r (by rw [h])
        simp [hn, hr]

/-- A comment makes what is given out shorter. -/
theorem length_lt_of_render {context : List (String × Datum)} {s out : List Char}
    (hcode : NoCode s) (hcomment : noTag (withoutLastBreak s) = false) (h : render context s = .ok out) :
    out.length < s.length := by
  obtain ⟨ending, hending, -⟩ := exists_lastBreak s
  have hfront : withoutLastBreak s <+: s := ⟨ending, hending⟩
  obtain ⟨result, htexts, hlength⟩ :=
    textsWithin_scan (2 * s.length + 2) .keep (hcode.part hfront.isInfix)
  rw [render_of_texts context htexts] at h
  cases result with
  | error fault => cases h
  | ok texts =>
      cases h
      exact (hlength texts rfl).trans_lt ((besideTag_lt hcomment).trans_le hfront.length_le)

/-- Text without expressions and statements is given out as it stands exactly if it has no comment
and no line break at its end. -/
theorem render_eq_self_iff (context : List (String × Datum)) {s : List Char} (hcode : NoCode s) :
    render context s = .ok s ↔ ¬ ['{', '#'] <:+: s ∧ endsInBreak s = false := by
  have hplain : noTag s = true ↔ ¬ ['{', '#'] <:+: s := by
    rw [noTag_iff, and_iff_right hcode]
  rw [← hplain]
  obtain ⟨ending, hending, hbreak⟩ := exists_lastBreak s
  rw [← hbreak]
  constructor
  · intro h
    cases hcomment : noTag (withoutLastBreak s) with
    | false => exact absurd (length_lt_of_render hcode hcomment h) (lt_irrefl _)
    | true =>
        rw [render_of_noTag context hcomment] at h
        have hsame := Except.ok.inj h
        rw [hsame] at hcomment hending
        exact ⟨hcomment, List.append_right_eq_self.mp hending⟩
  · rintro ⟨hcomment, rfl⟩
    rw [List.append_nil] at hending
    have hnone : noTag (withoutLastBreak s) = true := by rwa [hending]
    have h := render_of_noTag context hnone
    rwa [hending] at h

end ClusterTuning.Templating
