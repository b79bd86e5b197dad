import ClusterTuning.Proofs.Canonical
import ClusterTuning.Proofs.Patch
import ClusterTuning.Proofs.Patch.LeadingDot
import ClusterTuning.Proofs.Patch.Structure

/-!
# ClusterTuning.Proofs.Patch.Leaves

**Which texts of a patch are rendered, and which are left as they are.**

A patch that is JSON before it is rendered is rendered text by text: each string, and each name of
a field, at any depth. Here this is told as a relation between the patch and a value of the same
shape, in which every text stands beside what became of it (`Rendered`). Fields are only stored
afterwards, where those whose names have become the same fall together, so that nothing about the
texts depends on which of them survive (`exists_rendered_of_renderValue`).

The relation has the test for template text as a parameter, because rendering as a whole has two
tests. Text is left alone if it has neither an expression nor a statement, but of a patch that is
JSON only the strings and names with an expression are handed on. A text with statements alone
therefore stays, also where the template would give out another (`rendered_holdsTag_iff`).

## Main statements

* `exists_rendered_of_renderValue`: what becomes of every text, by the test for expressions.
* `renderBody_leaves`: the same for the body of a patch, and when the test for all tags agrees.
-/

namespace ClusterTuning

namespace Value

mutual

/-- The strings of a value and the names of its fields, at any depth. -/
def texts : Value → List String
  | .string text => [text]
  | .array items => itemsTexts items
  | .object fields => fieldsTexts fields
  | _ => []

/-- The texts of items. -/
def itemsTexts : List Value → List String
  | [] => []
  | v :: rest => v.texts ++ itemsTexts rest

/-- The names of fields, and the texts of their values. -/
def fieldsTexts : List (String × Value) → List String
  | [] => []
  | (name, v) :: rest => name :: (v.texts ++ fieldsTexts rest)

end

/-- A number or a truth value. -/
def IsTyped (v : Value) : Prop :=
  (∃ n, v = .number n) ∨ ∃ b, v = .bool b

end Value

namespace Patch

/-- Does the text hold the start of an expression or of a statement? -/
def holdsTag (text : String) : Bool :=
  holdsExpression text || holdsStatement text

/-! ### What becomes of a text -/

section Texts

variable (key : String) (context : PatchContext)

/-- What a string with template text becomes. -/
inductive Given (text : String) : Value → Prop where
  /-- The number or the truth value of the expression that the string consists of. -/
  | typed {expression : List Char} {w : Value}
      (hsingle : singleExpression? text.toList = some expression)
      (hvalue : renderExpression key context expression = .ok w) (hw : w.IsTyped) : Given text w
  /-- The text that it gives out, where there is no such value. -/
  | text {s : String}
      (huntyped : ∀ expression w, singleExpression? text.toList = some expression →
        renderExpression key context expression = .ok w → ¬ w.IsTyped)
      (hs : renderText key context text = .ok s) : Given text (.string s)

/-- What a name becomes: the text that it gives out if it is template text, and itself if not. -/
def NameGiven (templated : String → Bool) (name given : String) : Prop :=
  if templated name = true then renderText key context name = .ok given else given = name

mutual

/-- The second value is the first one with every text rendered that is template text, in its place
and its order. All else is the same. -/
inductive Rendered (templated : String → Bool) : Value → Value → Prop where
  /-- A string with template text. -/
  | template {text : String} {w : Value} (h : templated text = true)
      (hw : Given key context text w) : Rendered templated (.string text) w
  /-- Any other string. -/
  | verbatim {text : String} (h : templated text = false) :
      Rendered templated (.string text) (.string text)
  /-- Nothing. -/
  | null : Rendered templated .null .null
  /-- A truth value. -/
  | bool (b : Bool) : Rendered templated (.bool b) (.bool b)
  /-- A number. -/
  | number (n : Number) : Rendered templated (.number n) (.number n)
  /-- A list. -/
  | array {items ws : List Value} (h : RenderedItems templated items ws) :
      Rendered templated (.array items) (.array ws)
  /-- An object. -/
  | object {fields ws : List (String × Value)} (h : RenderedFields templated fields ws) :
      Rendered templated (.object fields) (.object ws)

/-- The items are rendered one by one. -/
inductive RenderedItems (templated : String → Bool) : List Value → List Value → Prop where
  /-- No items. -/
  | nil : RenderedItems templated [] []
  /-- An item before others. -/
  | cons {v w : Value} {items ws : List Value} (hv : Rendered templated v w)
      (hrest : RenderedItems templated items ws) :
      RenderedItems templated (v :: items) (w :: ws)

/-- The fields are rendered one by one, each with its name. -/
inductive RenderedFields (templated : String → Bool) :
    List (String × Value) → List (String × Value) → Prop where
  /-- No fields. -/
  | nil : RenderedFields templated [] []
  /-- A field before others. -/
  | cons {name given : String} {v w : Value} {fields ws : List (String × Value)}
      (hname : NameGiven key context templated name given) (hv : Rendered templated v w)
      (hrest : RenderedFields templated fields ws) :
      RenderedFields templated ((name, v) :: fields) ((given, w) :: ws)

end

end Texts

variable {key : String} {context : PatchContext}

/-- A string with an expression becomes what the expression gives if it is a single one with a type,
and the text that it renders to if not. -/
theorem given_of_renderString {text : String} {w : Value} (htext : holdsExpression text = true)
    (h : renderString key context text = .ok w) : Given key context text w := by
  rw [renderString, if_pos htext] at h
  cases htyped : renderTyped? key context text with
  | error e =>
      rw [htyped] at h
      cases h
  | ok typed =>
      rw [htyped] at h
      rw [renderTyped?] at htyped
      cases typed with
      | some v =>
          obtain rfl := Except.ok.inj h
          split at htyped
          · cases htyped
          rename_i expression hsingle
          split at htyped <;> cases htyped
          · rename_i n hvalue
            exact Given.typed hsingle hvalue (Or.inl ⟨n, rfl⟩)
          · rename_i b hvalue
            exact Given.typed hsingle hvalue (Or.inr ⟨b, rfl⟩)
      | none =>
          -- a value without a type is dropped, and the text is rendered as a whole
          obtain ⟨s, hs, rfl⟩ := map_eq_ok_iff.mp h
          refine Given.text (fun expression u hsingle hvalue hu => ?_) hs
          simp only [hsingle, hvalue] at htyped
          obtain ⟨n, rfl⟩ | ⟨b, rfl⟩ := hu <;> cases htyped

/-- A name with an expression becomes the text that it renders to, and any other one stays. -/
theorem nameGiven_of_renderName {name given : String}
    (h : renderName key context name = .ok given) :
    NameGiven key context holdsExpression name given := by
  rw [renderName] at h
  split at h
  · rename_i hname
    rwa [NameGiven, if_pos hname]
  · rename_i hname
    rw [NameGiven, if_neg hname]
    exact (Except.ok.inj h).symm

mutual

/-- A rendered value stores a value in which every text of the patch stands beside what became of
it. -/
theorem exists_rendered_of_renderValue : ∀ {v w : Value}, renderValue key context v = .ok w →
    ∃ raw, Rendered key context holdsExpression v raw ∧ raw.canonical = w
  | .string text, w, h => by
      rw [renderValue] at h
      cases htext : holdsExpression text with
      | true =>
          have hw := given_of_renderString htext h
          refine ⟨w, Rendered.template htext hw, Value.canonical_eq_self w ?_⟩
          exact isCanonical_of_renderString h
      | false =>
          rw [renderString, if_neg (by simp [htext])] at h
          obtain rfl := Except.ok.inj h
          exact ⟨_, Rendered.verbatim htext, rfl⟩
  | .array items, w, h => by
      rw [renderValue] at h
      obtain ⟨ws, hws, rfl⟩ := map_eq_ok_iff.mp h
      obtain ⟨raw, hraw, rfl⟩ := exists_rendered_of_renderItems hws
      exact ⟨.array raw, Rendered.array hraw, rfl⟩
  | .object fields, w, h => by
      rw [renderValue] at h
      obtain ⟨ws, hws, rfl⟩ := map_eq_ok_iff.mp h
      obtain ⟨raw, hraw, rfl⟩ := exists_rendered_of_renderFields hws
      exact ⟨.object raw, Rendered.object hraw, rfl⟩
  | .null, w, h => by
      cases h
      exact ⟨.null, Rendered.null, rfl⟩
  | .bool b, w, h => by
      cases h
      exact ⟨.bool b, Rendered.bool b, rfl⟩
  | .number n, w, h => by
      cases h
      exact ⟨.number n, Rendered.number n, rfl⟩

theorem exists_rendered_of_renderItems : ∀ {items ws : List Value},
    renderItems key context items = .ok ws →
      ∃ raw, RenderedItems key context holdsExpression items raw ∧ Value.canonicalItems raw = ws
  | [], ws, h => by
      cases h
      exact ⟨[], RenderedItems.nil, rfl⟩
  | v :: rest, ws, h => by
      rw [renderItems] at h
      split at h
      · cases h
      rename_i w hw
      obtain ⟨more, hmore, rfl⟩ := map_eq_ok_iff.mp h
      obtain ⟨first, hfirst, rfl⟩ := exists_rendered_of_renderValue hw
      obtain ⟨raw, hraw, rfl⟩ := exists_rendered_of_renderItems hmore
      exact ⟨first :: raw, RenderedItems.cons hfirst hraw, rfl⟩

/-- Fields are rendered one by one, and then put into the object in turn. -/
theorem exists_rendered_of_renderFields : ∀ {fields before ws : List (String × Value)},
    renderFields key context before fields = .ok ws →
      ∃ raw, RenderedFields key context holdsExpression fields raw ∧
        Fields.putAll before (Value.canonicalFields raw) = ws
  | [], before, ws, h => by
      cases h
      exact ⟨[], RenderedFields.nil, rfl⟩
  | (name, v) :: rest, before, ws, h => by
      rw [renderFields] at h
      split at h
      · cases h
      rename_i given hname
      split at h
      · cases h
      rename_i w hw
      obtain ⟨first, hfirst, rfl⟩ := exists_rendered_of_renderValue hw
      obtain ⟨raw, hraw, rfl⟩ := exists_rendered_of_renderFields h
      exact ⟨(given, first) :: raw,
        RenderedFields.cons (nameGiven_of_renderName hname) hfirst hraw, rfl⟩

end

/-! ### Where the two tests part -/

/-- Text without an expression and with a statement, which renders to something else. -/
def Stuck (key : String) (context : PatchContext) (text : String) : Prop :=
  holdsExpression text = false ∧ holdsStatement text = true ∧
    renderText key context text ≠ .ok text

instance (key : String) (context : PatchContext) (text : String) :
    Decidable (Stuck key context text) :=
  inferInstanceAs (Decidable (_ ∧ _ ∧ _))

theorem holdsTag_of_holdsExpression {text : String} (h : holdsExpression text = true) :
    holdsTag text = true := by
  rw [holdsTag, h, Bool.true_or]

theorem holdsTag_of_not_holdsExpression {text : String} (h : holdsExpression text = false) :
    holdsTag text = holdsStatement text := by
  rw [holdsTag, h, Bool.false_or]

/-- A text that is a single expression holds an expression. -/
theorem singleExpression?_of_not_holdsExpression {text : String}
    (h : holdsExpression text = false) : singleExpression? text.toList = none := by
  cases hsingle : singleExpression? text.toList with
  | none => rfl
  | some expression =>
      have hoccurs := openBraces_infix_of_singleExpression? hsingle
      rw [holdsExpression, Text.occursIn_iff.mpr hoccurs] at h
      cases h

/-- A string without an expression is kept by a rendering exactly if it renders to itself. -/
theorem given_self_iff {text : String} (h : holdsExpression text = false) :
    Given key context text (.string text) ↔ renderText key context text = .ok text := by
  constructor
  · intro hgiven
    cases hgiven with
    | typed hsingle _ _ =>
        rw [singleExpression?_of_not_holdsExpression h] at hsingle
        cases hsingle
    | text _ hs => exact hs
  · intro hs
    refine Given.text (fun expression w hsingle => ?_) hs
    rw [singleExpression?_of_not_holdsExpression h] at hsingle
    cases hsingle

/-- A string that was rendered where only expressions count is as it should be where all tags count,
unless it is stuck. -/
theorem rendered_string_iff {text : String} {raw : Value}
    (h : Rendered key context holdsExpression (.string text) raw) :
    Rendered key context holdsTag (.string text) raw ↔ ¬ Stuck key context text := by
  cases h with
  | template htext hw =>
      refine iff_of_true (Rendered.template (holdsTag_of_holdsExpression htext) hw) ?_
      rintro ⟨hnone, -⟩
      rw [htext] at hnone
      cases hnone
  | verbatim htext =>
      have htag := holdsTag_of_not_holdsExpression htext
      cases hstatement : holdsStatement text with
      | false =>
          rw [hstatement] at htag
          refine iff_of_true (Rendered.verbatim htag) ?_
          rintro ⟨-, hsome, -⟩
          rw [hstatement] at hsome
          cases hsome
      | true =>
          rw [hstatement] at htag
          constructor
          · intro hrendered hstuck
            cases hrendered with
            | template _ hw => exact hstuck.2.2 ((given_self_iff htext).mp hw)
            | verbatim hnone =>
                rw [htag] at hnone
                cases hnone
          · intro hstuck
            have hsame : renderText key context text = .ok text :=
              not_not.mp fun hother => hstuck ⟨htext, hstatement, hother⟩
            exact Rendered.template htag ((given_self_iff htext).mpr hsame)

theorem nameGiven_iff {name given : String} (h : NameGiven key context holdsExpression name given) :
    NameGiven key context holdsTag name given ↔ ¬ Stuck key context name := by
  cases htext : holdsExpression name with
  | true =>
      rw [NameGiven, if_pos htext] at h
      rw [NameGiven, if_pos (holdsTag_of_holdsExpression htext)]
      refine iff_of_true h ?_
      rintro ⟨hnone, -⟩
      rw [htext] at hnone
      cases hnone
  | false =>
      rw [NameGiven, if_neg (by simp [htext])] at h
      subst h
      rw [NameGiven, holdsTag_of_not_holdsExpression htext, Stuck]
      cases holdsStatement given <;> simp [htext]

mutual

/-- A value rendered by the test for expressions is rendered by the test for all tags exactly if
no text in it is stuck. -/
theorem rendered_holdsTag_iff : ∀ {v raw : Value}, Rendered key context holdsExpression v raw →
    (Rendered key context holdsTag v raw ↔ ∀ text ∈ v.texts, ¬ Stuck key context text)
  | .string text, raw, h => by
      rw [rendered_string_iff h, Value.texts, List.forall_mem_singleton]
  | .array items, raw, h => by
      cases h with
      | array hitems =>
          rw [Value.texts, ← renderedItems_holdsTag_iff hitems]
          exact ⟨fun | .array hrest => hrest, Rendered.array⟩
  | .object fields, raw, h => by
      cases h with
      | object hfields =>
          rw [Value.texts, ← renderedFields_holdsTag_iff hfields]
          exact ⟨fun | .object hrest => hrest, Rendered.object⟩
  | .null, raw, h => by
      cases h
      exact iff_of_true Rendered.null (List.forall_mem_nil _)
  | .bool b, raw, h => by
      cases h
      exact iff_of_true (Rendered.bool b) (List.forall_mem_nil _)
  | .number n, raw, h => by
      cases h
      exact iff_of_true (Rendered.number n) (List.forall_mem_nil _)

theorem renderedItems_holdsTag_iff : ∀ {items raw : List Value},
    RenderedItems key context holdsExpression items raw →
      (RenderedItems key context holdsTag items raw ↔
        ∀ text ∈ Value.itemsTexts items, ¬ Stuck key context text)
  | [], raw, h => by
      cases h
      exact iff_of_true RenderedItems.nil (List.forall_mem_nil _)
  | v :: rest, raw, h => by
      cases h with
      | cons hv hrest =>
          rw [Value.itemsTexts, List.forall_mem_append, ← rendered_holdsTag_iff hv,
            ← renderedItems_holdsTag_iff hrest]
          exact ⟨fun | .cons hfirst hmore => ⟨hfirst, hmore⟩,
            fun ⟨hfirst, hmore⟩ => RenderedItems.cons hfirst hmore⟩

theorem renderedFields_holdsTag_iff : ∀ {fields raw : List (String × Value)},
    RenderedFields key context holdsExpression fields raw →
      (RenderedFields key context holdsTag fields raw ↔
        ∀ text ∈ Value.fieldsTexts fields, ¬ Stuck key context text)
  | [], raw, h => by
      cases h
      exact iff_of_true RenderedFields.nil (List.forall_mem_nil _)
  | (name, v) :: rest, raw, h => by
      cases h with
      | cons hname hv hrest =>
          rw [Value.fieldsTexts, List.forall_mem_cons, List.forall_mem_append,
            ← nameGiven_iff hname, ← rendered_holdsTag_iff hv, ← renderedFields_holdsTag_iff hrest]
          exact ⟨fun | .cons hgiven hfirst hmore => ⟨hgiven, hfirst, hmore⟩,
            fun ⟨hgiven, hfirst, hmore⟩ => RenderedFields.cons hgiven hfirst hmore⟩

end

/-! ### The body of a patch -/

/-- The body of a patch stores a value in which every text with an expression is rendered, in its
place, and every other text is what it was. Those with a statement are rendered too exactly if none
of them is stuck. -/
theorem renderBody_leaves {text : String} {skeleton : Value} {fields : List (String × Value)}
    (hread : Json.read? text = some skeleton) (h : renderBody key context text = .ok fields) :
    ∃ raw, raw.canonical = .object fields ∧ Rendered key context holdsExpression skeleton raw ∧
      (Rendered key context holdsTag skeleton raw ↔
        ∀ s ∈ skeleton.texts, ¬ Stuck key context s) := by
  obtain ⟨raw, hraw, hfields⟩ := exists_rendered_of_renderValue (rendersTo_of_renderBody hread h)
  exact ⟨raw, hfields, hraw, rendered_holdsTag_iff hraw⟩

/-- A trial that assigns nothing. -/
def bareTrial : Trial :=
  ⟨"t-1", "default", 1, []⟩

/-- A text that gives out how many parameters are assigned. -/
def assignedCount : String :=
  "\x7b\x7b Values | length \x7d\x7d"

/-- A patch with such texts in a name and in a list. -/
def nestedPatch : Value :=
  .object [("spec", .object [("tuned-" ++ assignedCount,
    .array [.string assignedCount, .string "web"])])]

/-- Names and strings with expressions are rendered at any depth. -/
theorem renderBody_leaves_nested : ∃ raw : Value,
    raw.canonical = .object
      [("spec", .object [("tuned-0", .array [.number (.int 0), .string "web"])])] ∧
    Rendered "patch-0" bareTrial.context holdsTag nestedPatch raw := by
  have hread : Json.read? (Json.write nestedPatch) = some nestedPatch := by
    decide +kernel
  have hbody : renderBody "patch-0" bareTrial.context (Json.write nestedPatch) =
      .ok [("spec", .object [("tuned-0", .array [.number (.int 0), .string "web"])])] := by
    decide +kernel
  have hstuck : ∀ text ∈ nestedPatch.texts, ¬ Stuck "patch-0" bareTrial.context text := by
    decide +kernel
  obtain ⟨raw, hraw, -, hall⟩ := renderBody_leaves hread hbody
  exact ⟨raw, hraw, hall.mpr hstuck⟩

/-- A text that is a choice by a statement. -/
def chosenTier : String :=
  "\x7b% if Values %\x7dtuned\x7b% else %\x7dstock\x7b% endif %\x7d"

/-- A patch with such a text. -/
def tierPatch : Value :=
  .object [("tier", .string chosenTier)]

/-- A text with statements alone stays in the patch, although it gives out another. -/
theorem statement_left_unrendered :
    renderText "patch-0" bareTrial.context chosenTier = .ok "stock" ∧
    ∃ fields, Json.read? (Json.write tierPatch) = some tierPatch ∧
      renderBody "patch-0" bareTrial.context (Json.write tierPatch) = .ok fields ∧
      Fields.get? "tier" fields = some (.string chosenTier) ∧
      ¬ ∃ raw : Value, raw.canonical = .object fields ∧
        Rendered "patch-0" bareTrial.context holdsTag tierPatch raw := by
  have hread : Json.read? (Json.write tierPatch) = some tierPatch := by
    decide +kernel
  have hbody : renderBody "patch-0" bareTrial.context (Json.write tierPatch) =
      .ok [("tier", .string chosenTier)] := by
    decide +kernel
  have hstock : renderText "patch-0" bareTrial.context chosenTier = .ok "stock" := by
    decide +kernel
  have hname : holdsTag "tier" = false := by decide +kernel
  have htag : holdsTag chosenTier = true := by decide +kernel
  have hsingle : singleExpression? chosenTier.toList = none := by decide +kernel
  refine ⟨hstock, _, hread, hbody, rfl, ?_⟩
  rintro ⟨raw, hraw, hrendered⟩
  cases hrendered with
  | object hfields =>
      cases hfields with
      | cons hgiven hv hrest =>
          cases hrest
          rw [NameGiven, if_neg (by simp [hname])] at hgiven
          subst hgiven
          cases hv with
          | template _ hw =>
              cases hw with
              | typed hone _ _ =>
                  rw [hsingle] at hone
                  cases hone
              | text _ hs =>
                  obtain rfl := Except.ok.inj (hstock.symm.trans hs)
                  exact absurd hraw (by decide +kernel)
          | verbatim hnone =>
              rw [htag] at hnone
              cases hnone

end Patch

end ClusterTuning
