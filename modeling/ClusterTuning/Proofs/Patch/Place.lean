import ClusterTuning.Proofs.Patch

/-!
# ClusterTuning.Proofs.Patch.Place

**The place of a patch decides its key and nothing else.**

The key of a patch is made from its place among the templates, and it is handed down through the
whole rendering so that failures can name it. Whether rendering succeeds and what it gives does
not depend on the key. So a rendered set is, apart from its keys, a list of results of single
templates (`map_keyless_of_renderFrom`), and it can be compared with the set that other places
give.

## Main statements

* `renderOne_at`: a template that is rendered at one place gives the same patch at any other.
* `exists_renderFrom_iff`: templates can be rendered exactly if each of them can.
-/

namespace ClusterTuning

/-- A patch without its key. -/
def RenderedPatch.keyless (p : RenderedPatch) : RenderedPatch :=
  { p with key := "" }

@[simp] theorem RenderedPatch.body_keyless (p : RenderedPatch) : p.keyless.body = p.body := rfl

namespace Patch

variable {context : PatchContext} {key : String}

/-! ### The key only names failures -/

theorem failing_eq_ok_iff {α : Type} {result : Except Templating.Fault α} {a : α} :
    failing key result = .ok a ↔ result = .ok a := by
  cases result <;> simp [failing]

/-- The key only names the template in messages, so a rendering that succeeds does not depend on it.
-/
theorem renderText_at {text s : String} (h : renderText key context text = .ok s)
    (other : String) : renderText other context text = .ok s := by
  rw [renderText] at h ⊢
  split at h
  · rename_i htag
    rw [if_pos htag, failing_eq_ok_iff]
    exact failing_eq_ok_iff.mp h
  · rename_i htag
    rw [if_neg htag]
    exact h

theorem renderExpression_at {expression : List Char} {v : Value}
    (h : renderExpression key context expression = .ok v) (other : String) :
    renderExpression other context expression = .ok v := by
  rw [renderExpression, failing_eq_ok_iff] at h ⊢
  exact h

theorem renderTyped?_at {text : String} {v : Option Value}
    (h : renderTyped? key context text = .ok v) (other : String) :
    renderTyped? other context text = .ok v := by
  rw [renderTyped?] at h ⊢
  cases hsingle : singleExpression? text.toList with
  | none =>
      simp only [hsingle] at h
      exact h
  | some expression =>
      simp only [hsingle] at h ⊢
      cases hvalue : renderExpression key context expression with
      | error e =>
          rw [hvalue] at h
          cases h
      | ok w =>
          rw [hvalue] at h
          rw [renderExpression_at hvalue other]
          exact h

theorem renderString_at {text : String} {v : Value} (h : renderString key context text = .ok v)
    (other : String) : renderString other context text = .ok v := by
  rw [renderString] at h ⊢
  split at h
  · rename_i hexpression
    rw [if_pos hexpression]
    cases htyped : renderTyped? key context text with
    | error e =>
        rw [htyped] at h
        cases h
    | ok typed =>
        rw [htyped] at h
        rw [renderTyped?_at htyped other]
        cases typed with
        | some w => exact h
        | none =>
            obtain ⟨s, hs, rfl⟩ := map_eq_ok_iff.mp h
            exact map_eq_ok_iff.mpr ⟨s, renderText_at hs other, rfl⟩
  · rename_i hexpression
    rw [if_neg hexpression]
    exact h

theorem renderName_at {name s : String} (h : renderName key context name = .ok s)
    (other : String) : renderName other context name = .ok s := by
  rw [renderName] at h ⊢
  split at h
  · rename_i hexpression
    rw [if_pos hexpression]
    exact renderText_at h other
  · rename_i hexpression
    rw [if_neg hexpression]
    exact h

mutual

theorem renderValue_at (other : String) : ∀ {v w : Value},
    renderValue key context v = .ok w → renderValue other context v = .ok w
  | .string text, w, h => by
      rw [renderValue] at h ⊢
      exact renderString_at h other
  | .array items, w, h => by
      rw [renderValue] at h ⊢
      obtain ⟨ws, hws, rfl⟩ := map_eq_ok_iff.mp h
      exact map_eq_ok_iff.mpr ⟨ws, renderItems_at other hws, rfl⟩
  | .object fields, w, h => by
      rw [renderValue] at h ⊢
      obtain ⟨ws, hws, rfl⟩ := map_eq_ok_iff.mp h
      exact map_eq_ok_iff.mpr ⟨ws, renderFields_at other hws, rfl⟩
  | .null, w, h | .bool _, w, h | .number _, w, h => h

theorem renderItems_at (other : String) : ∀ {items ws : List Value},
    renderItems key context items = .ok ws → renderItems other context items = .ok ws
  | [], ws, h => h
  | v :: rest, ws, h => by
      rw [renderItems] at h ⊢
      cases hw : renderValue key context v with
      | error e =>
          rw [hw] at h
          cases h
      | ok w =>
          rw [hw] at h
          rw [renderValue_at other hw]
          obtain ⟨more, hmore, rfl⟩ := map_eq_ok_iff.mp h
          exact map_eq_ok_iff.mpr ⟨more, renderItems_at other hmore, rfl⟩

theorem renderFields_at (other : String) : ∀ {fields before ws : List (String × Value)},
    renderFields key context before fields = .ok ws →
      renderFields other context before fields = .ok ws
  | [], before, ws, h => h
  | (name, v) :: rest, before, ws, h => by
      rw [renderFields] at h ⊢
      cases hname : renderName key context name with
      | error e =>
          rw [hname] at h
          cases h
      | ok rendered =>
          rw [hname] at h
          rw [renderName_at hname other]
          cases hw : renderValue key context v with
          | error e =>
              simp only [hw] at h
              cases h
          | ok w =>
              simp only [hw] at h
              simp only [renderValue_at other hw]
              exact renderFields_at other h

end

/-- A body is rendered to the same fields wherever its template stands among the others. -/
theorem renderBody_at {text : String} {fields : List (String × Value)}
    (h : renderBody key context text = .ok fields) (other : String) :
    renderBody other context text = .ok fields := by
  rw [renderBody] at h ⊢
  cases hread : Json.read? text with
  | some skeleton =>
      simp only [hread] at h ⊢
      cases hv : renderValue key context skeleton with
      | error e =>
          rw [hv] at h
          cases h
      | ok v =>
          rw [hv] at h
          rw [renderValue_at other hv]
          cases v with
          | object fields => exact h
          | _ => cases h
  | none =>
      simp only [hread] at h ⊢
      cases htext : renderText key context text with
      | error e =>
          rw [htext] at h
          cases h
      | ok output =>
          rw [htext] at h
          rw [renderText_at htext other]
          simp only at h ⊢
          cases hv : Json.read? output with
          | none =>
              rw [hv] at h
              cases h
          | some v =>
              rw [hv] at h
              cases v with
              | object fields => exact h
              | _ => cases h

/-- A target is rendered to the same one wherever its template stands among the others. -/
theorem renderTarget_at {t target : TargetRef} (h : renderTarget key context t = .ok target)
    (other : String) : renderTarget other context t = .ok target := by
  rw [renderTarget] at h ⊢
  obtain ⟨apiVersion, hversion, h⟩ := bind_eq_ok_iff.mp h
  obtain ⟨kind, hkind, h⟩ := bind_eq_ok_iff.mp h
  obtain ⟨name, hname, h⟩ := bind_eq_ok_iff.mp h
  obtain ⟨ns, hns, h⟩ := bind_eq_ok_iff.mp h
  refine bind_eq_ok_iff.mpr ⟨apiVersion, renderText_at hversion other, ?_⟩
  refine bind_eq_ok_iff.mpr ⟨kind, renderText_at hkind other, ?_⟩
  refine bind_eq_ok_iff.mpr ⟨name, renderText_at hname other, ?_⟩
  refine bind_eq_ok_iff.mpr ⟨ns, renderText_at hns other, ?_⟩
  -- the two checks use the key only where they fail
  by_cases hblankKind : isBlankText kind = true
  · rw [if_pos hblankKind] at h
    cases h
  by_cases hblankName : isBlankText name = true
  · rw [if_neg hblankKind, if_pos hblankName] at h
    cases h
  rw [if_neg hblankKind, if_neg hblankName] at h ⊢
  exact h

/-! ### One template at two places -/

/-- A template that is rendered at one place gives the same patch at any other, under the key of
that place. -/
theorem renderOne_at {index : Nat} {t : PatchTemplate} {p : RenderedPatch}
    (h : renderOne context index t = .ok p) (other : Nat) :
    renderOne context other t = .ok { p with key := keyAt other } := by
  obtain ⟨target, fields, htarget, hfields, rfl⟩ := exists_of_renderOne h
  rw [renderOne, renderTarget_at htarget (keyAt other)]
  simp only
  rw [renderBody_at hfields (keyAt other)]

/-- The patch of a template, without a place. -/
def rendered? (context : PatchContext) (t : PatchTemplate) : Option RenderedPatch :=
  (renderOne context 0 t).toOption.map RenderedPatch.keyless

theorem rendered?_of_renderOne {index : Nat} {t : PatchTemplate} {p : RenderedPatch}
    (h : renderOne context index t = .ok p) : rendered? context t = some p.keyless := by
  rw [rendered?, renderOne_at h 0]
  rfl

/-- Whether a template can be rendered does not depend on its place. -/
theorem exists_renderOne_iff {index : Nat} {t : PatchTemplate} :
    (∃ p, renderOne context index t = .ok p) ↔ (rendered? context t).isSome = true := by
  constructor
  · rintro ⟨p, hp⟩
    rw [rendered?_of_renderOne hp]
    rfl
  · intro h
    cases hone : renderOne context 0 t with
    | error e =>
        rw [rendered?, hone] at h
        cases h
    | ok p => exact ⟨_, renderOne_at hone index⟩

/-- Apart from their keys, rendered patches are those of the single templates. -/
theorem map_keyless_of_renderFrom {start : Nat} {templates : List PatchTemplate}
    {patches : PatchSet} (h : renderFrom context start templates = .ok patches) :
    templates.filterMap (rendered? context) = patches.map RenderedPatch.keyless := by
  induction templates generalizing start patches with
  | nil =>
      cases h
      rfl
  | cons t rest ih =>
      rw [renderFrom] at h
      split at h
      · cases h
      rename_i p hp
      obtain ⟨more, hmore, rfl⟩ := map_eq_ok_iff.mp h
      rw [List.filterMap_cons_some (rendered?_of_renderOne hp), List.map_cons, ih hmore]

/-- Templates can be rendered exactly if each of them can. -/
theorem exists_renderFrom_iff {start : Nat} {templates : List PatchTemplate} :
    (∃ patches, renderFrom context start templates = .ok patches) ↔
      ∀ t ∈ templates, (rendered? context t).isSome = true := by
  induction templates generalizing start with
  | nil => exact ⟨fun _ => nofun, fun _ => ⟨[], rfl⟩⟩
  | cons t rest ih =>
      have hone : (∃ p, renderOne context start t = .ok p) ↔ (rendered? context t).isSome = true :=
        exists_renderOne_iff
      have hrest : (∃ patches, renderFrom context (start + 1) rest = .ok patches) ↔ _ := ih
      rw [List.forall_mem_cons, ← hone, ← hrest, renderFrom]
      cases renderOne context start t with
      | error e => simp
      | ok p => simp [map_eq_ok_iff]

end Patch

end ClusterTuning
