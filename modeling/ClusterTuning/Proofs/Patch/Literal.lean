import ClusterTuning.Proofs.Patch.Leaves
import ClusterTuning.Proofs.Templating.Plain

/-!
# ClusterTuning.Proofs.Patch.Literal

**When text without tags would have come out of the template as it stands.**

Text without an expression and without a statement is not handed to the template at all. This saves
nothing but time where the template gives the text out as it stands, which it does unless there is a
comment or a line break at the end. The guard keeps both of them.

## Main statement

* `renderText_eq_engineText_iff`: when rendering agrees with the template.
-/

namespace ClusterTuning.Patch

variable {key : String} {context : PatchContext} {text : String}

/-- Render any text as a template. -/
def engineText (key : String) (context : PatchContext) (text : String) : Except Failure String :=
  failing key ((Templating.render context (withoutLeadingDots text.toList)).map String.ofList)

/-- Does the text hold the start of a comment? -/
def holdsComment (text : String) : Bool :=
  Text.occursIn ['{', '#'] text.toList

theorem renderText_of_holdsTag (h : holdsTag text = true) :
    renderText key context text = engineText key context text := by
  rw [holdsTag] at h
  rw [renderText, if_pos h, engineText]

theorem renderText_of_not_holdsTag (h : holdsTag text = false) :
    renderText key context text = .ok text := by
  rw [holdsTag] at h
  rw [renderText, if_neg (by simp [h])]

theorem noCode_of_not_holdsTag (h : holdsTag text = false) : Templating.NoCode text.toList := by
  obtain ⟨hexpression, hstatement⟩ := Bool.or_eq_false_iff.mp h
  constructor
  · rw [← Text.occursIn_iff]
    exact Bool.eq_false_iff.mp hexpression
  · rw [← Text.occursIn_iff]
    exact Bool.eq_false_iff.mp hstatement

theorem failing_map_eq_ok_iff {result : Except Templating.Fault (List Char)} :
    failing key (result.map String.ofList) = .ok text ↔ result = .ok text.toList := by
  cases result with
  | error fault => simp [failing, Except.map]
  | ok s =>
      simp only [failing, Except.map, Except.ok.injEq]
      rw [← String.toList_inj, String.toList_ofList]

/-- Rendering agrees with the template exactly if the text has an expression or a statement, or has
no comment and no line break at its end. -/
theorem renderText_eq_engineText_iff (key : String) (context : PatchContext) (text : String) :
    renderText key context text = engineText key context text ↔
      holdsTag text = true ∨
        holdsComment text = false ∧ Templating.endsInBreak text.toList = false := by
  cases htag : holdsTag text with
  | true => exact iff_of_true (renderText_of_holdsTag htag) (.inl rfl)
  | false =>
      have hcode := noCode_of_not_holdsTag htag
      have hcomment : holdsComment text = false ↔ ¬ ['{', '#'] <:+: text.toList := by
        rw [← Text.occursIn_iff, holdsComment, Bool.eq_false_iff]
      rw [renderText_of_not_holdsTag htag, eq_comm, engineText,
        withoutLeadingDots_eq_self hcode.expression, failing_map_eq_ok_iff,
        Templating.render_eq_self_iff context hcode, hcomment]
      simp

/-- A line break at the end and a comment stay, where the template takes them away. -/
theorem literal_text_kept :
    renderText "patch-0" bareTrial.context "web\n" = .ok "web\n" ∧
    engineText "patch-0" bareTrial.context "web\n" = .ok "web" ∧
    renderText "patch-0" bareTrial.context "web\x7b# stable #\x7d" =
      .ok "web\x7b# stable #\x7d" ∧
    engineText "patch-0" bareTrial.context "web\x7b# stable #\x7d" = .ok "web" := by
  decide +kernel

end ClusterTuning.Patch
