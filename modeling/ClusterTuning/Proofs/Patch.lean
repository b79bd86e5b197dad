import ClusterTuning.Patch
import ClusterTuning.Proofs.Json.Rereading

/-!
# ClusterTuning.Proofs.Patch

**A rendered patch bears the identity of its target.**

Whatever a template says about kind, name, namespace or version of the API, the rendered
fields say what the target says. That survives the way through JSON text, since all of it is
text, so the content that is merged into documents bears the same identity.

## Main statements

* `rendered_of_renderPatches`: every rendered patch is rendered for some target.
* `RenderedPatch.RenderedFor.content`: what its body reads as bears that target's identity.
-/

namespace ClusterTuning

/-! ### The identity of a target -/

/-- The value says what the target says about the object it is for. -/
structure TargetRef.Identifies (t : TargetRef) (v : Value) : Prop where
  /-- The version of the API is the target's. -/
  apiVersion : v.get? "apiVersion" = some (.string t.apiVersion)
  /-- The kind is the target's. -/
  kind : v.get? "kind" = some (.string t.kind)
  /-- There is metadata, with the target's name and with its namespace if it has one. -/
  metadata : ∃ metadata, v.get? "metadata" = some (.object metadata) ∧
    Fields.get? "name" metadata = some (.string t.name) ∧
    Fields.get? "namespace" metadata =
      if t.namespace = "" then none else some (.string t.namespace)

namespace Value

theorem map_numberless_eq_string_iff {v : Option Value} {text : String} :
    v.map numberless = some (.string text) ↔ v = some (.string text) := by
  cases v with
  | none => simp
  | some v => cases v <;> simp [numberless]

theorem map_numberless_eq_object_iff {v : Option Value} {fields : List (String × Value)} :
    v.map numberless = some (.object fields) ↔
      ∃ whole, v = some (.object whole) ∧ fieldsNumberless whole = fields := by
  cases v with
  | none => simp
  | some v => cases v <;> simp [numberless]

end Value

/-- Numbers say nothing about the identity. -/
theorem TargetRef.identifies_numberless_iff {t : TargetRef} {v : Value} :
    t.Identifies v.numberless ↔ t.Identifies v := by
  have hnamespace : ∀ metadata : List (String × Value),
      (Fields.get? "namespace" metadata).map Value.numberless =
        (if t.namespace = "" then none else some (.string t.namespace)) ↔
      Fields.get? "namespace" metadata =
        if t.namespace = "" then none else some (.string t.namespace) := by
    intro metadata
    split
    · exact Option.map_eq_none_iff
    · exact Value.map_numberless_eq_string_iff
  -- the identity is all text, and the metadata that holds it stays an object
  constructor
  · rintro ⟨hversion, hkind, metadata, hmetadata, hname, hns⟩
    rw [Value.get?_numberless] at hversion hkind hmetadata
    obtain ⟨whole, hwhole, rfl⟩ := Value.map_numberless_eq_object_iff.mp hmetadata
    rw [Value.fieldsGet?_numberless] at hname hns
    exact ⟨Value.map_numberless_eq_string_iff.mp hversion,
      Value.map_numberless_eq_string_iff.mp hkind, whole, hwhole,
      Value.map_numberless_eq_string_iff.mp hname, (hnamespace whole).mp hns⟩
  · rintro ⟨hversion, hkind, metadata, hmetadata, hname, hns⟩
    refine ⟨?_, ?_, Value.fieldsNumberless metadata, ?_, ?_, ?_⟩
    · rw [Value.get?_numberless, hversion]
      rfl
    · rw [Value.get?_numberless, hkind]
      rfl
    · rw [Value.get?_numberless, hmetadata]
      rfl
    · rw [Value.fieldsGet?_numberless, hname]
      rfl
    · rw [Value.fieldsGet?_numberless]
      exact (hnamespace metadata).mpr hns

/-! ### Rendering -/

namespace Patch

/-- A string is rendered to a number, a truth value or a text, and never to a list or an object. -/
theorem renderString_forms {key : String} {context : PatchContext} {text : String} {v : Value}
    (h : renderString key context text = .ok v) :
    (∃ n, v = .number n) ∨ (∃ b, v = .bool b) ∨ ∃ s, v = .string s := by
  rw [renderString] at h
  split at h
  · split at h
    · cases h
    · rename_i w htyped
      cases h
      rw [renderTyped?] at htyped
      split at htyped
      · cases htyped
      · split at htyped
        · cases htyped
        · cases htyped
          exact Or.inl ⟨_, rfl⟩
        · cases htyped
          exact Or.inr (Or.inl ⟨_, rfl⟩)
        · cases htyped
    · cases hrendered : renderText key context text with
      | error e =>
          rw [hrendered] at h
          cases h
      | ok s =>
          rw [hrendered] at h
          cases h
          exact Or.inr (Or.inr ⟨s, rfl⟩)
  · cases h
    exact Or.inr (Or.inr ⟨text, rfl⟩)

theorem isCanonical_of_renderString {key : String} {context : PatchContext} {text : String}
    {v : Value} (h : renderString key context text = .ok v) : v.IsCanonical := by
  rcases renderString_forms h with ⟨_, rfl⟩ | ⟨_, rfl⟩ | ⟨_, rfl⟩ <;> exact trivial

mutual

/-- Rendering keeps values canonical, also where names of fields are rendered: fields are put in one
by one. -/
theorem isCanonical_of_renderValue {key : String} {context : PatchContext} :
    ∀ {v w : Value}, v.IsCanonical → renderValue key context v = .ok w → w.IsCanonical
  | .string text, w, _, h => by
      rw [renderValue] at h
      exact isCanonical_of_renderString h
  | .array items, w, hv, h => by
      rw [renderValue] at h
      obtain ⟨ws, hws, rfl⟩ := map_eq_ok_iff.mp h
      exact itemsCanonical_of_renderItems hv hws
  | .object fields, w, hv, h => by
      rw [renderValue] at h
      obtain ⟨ws, hws, rfl⟩ := map_eq_ok_iff.mp h
      exact isCanonical_of_renderFields hv.2 ⟨Fields.ordered_nil, trivial⟩ hws
  | .null, w, _, h | .bool _, w, _, h | .number _, w, _, h => by
      cases h
      exact trivial

theorem itemsCanonical_of_renderItems {key : String} {context : PatchContext} :
    ∀ {items ws : List Value}, Value.ItemsCanonical items →
      renderItems key context items = .ok ws → Value.ItemsCanonical ws
  | [], ws, _, h => by
      cases h
      exact trivial
  | v :: rest, ws, hitems, h => by
      rw [renderItems] at h
      split at h
      · cases h
      · rename_i w hw
        obtain ⟨more, hmore, rfl⟩ := map_eq_ok_iff.mp h
        exact ⟨isCanonical_of_renderValue hitems.1 hw,
          itemsCanonical_of_renderItems hitems.2 hmore⟩

theorem isCanonical_of_renderFields {key : String} {context : PatchContext} :
    ∀ {fields before ws : List (String × Value)}, Value.FieldsCanonical fields →
      Value.IsCanonical (.object before) → renderFields key context before fields = .ok ws →
        Value.IsCanonical (.object ws)
  | [], before, ws, _, hbefore, h => by
      cases h
      exact hbefore
  | (name, v) :: rest, before, ws, hfields, hbefore, h => by
      rw [renderFields] at h
      split at h
      · cases h
      rename_i name _
      split at h
      · cases h
      rename_i w hw
      refine isCanonical_of_renderFields hfields.2 ?_ h
      exact ⟨hbefore.1.put name w, hbefore.2.put name (isCanonical_of_renderValue hfields.1 hw)⟩

end

/-- A rendered body is canonical. -/
theorem isCanonical_of_renderBody {key : String} {context : PatchContext} {text : String}
    {fields : List (String × Value)} (h : renderBody key context text = .ok fields) :
    Value.IsCanonical (.object fields) := by
  unfold renderBody at h
  simp only at h
  split at h
  · cases h
  · rename_i rendered hrendered
    cases h
    split at hrendered
    · rename_i skeleton hskeleton
      exact isCanonical_of_renderValue (Json.isCanonical_of_read? hskeleton) hrendered
    · split at hrendered
      · cases hrendered
      split at hrendered
      · rename_i v hread
        cases hrendered
        exact Json.isCanonical_of_read? hread
      · cases hrendered
  · cases h

theorem ne_empty_of_isBlankText_eq_false {text : String} (h : ¬ isBlankText text = true) :
    text ≠ "" := by
  rintro rfl
  exact h rfl

/-- A rendered target has the rendered version of the API, and its kind and its name are not
blank. -/
theorem parts_of_renderTarget {key : String} {context : PatchContext} {t target : TargetRef}
    (h : renderTarget key context t = .ok target) :
    renderText key context t.apiVersion = .ok target.apiVersion ∧
      ¬ isBlankText target.kind = true ∧ ¬ isBlankText target.name = true := by
  rw [renderTarget] at h
  obtain ⟨apiVersion, hversion, h⟩ := bind_eq_ok_iff.mp h
  obtain ⟨kind, _, h⟩ := bind_eq_ok_iff.mp h
  obtain ⟨name, _, h⟩ := bind_eq_ok_iff.mp h
  obtain ⟨ns, _, h⟩ := bind_eq_ok_iff.mp h
  by_cases hkind : isBlankText kind = true
  · rw [if_pos hkind] at h
    cases h
  by_cases hname : isBlankText name = true
  · rw [if_neg hkind, if_pos hname] at h
    cases h
  rw [if_neg hkind, if_neg hname] at h
  cases h
  exact ⟨hversion, hkind, hname⟩

theorem not_isBlank_of_renderTarget {key : String} {context : PatchContext} {t target : TargetRef}
    (h : renderTarget key context t = .ok target) :
    ¬ isBlankText target.kind = true ∧ ¬ isBlankText target.name = true :=
  (parts_of_renderTarget h).2

/-- A rendered target has a kind and a name. -/
theorem ne_empty_of_renderTarget {key : String} {context : PatchContext} {t target : TargetRef}
    (h : renderTarget key context t = .ok target) : target.kind ≠ "" ∧ target.name ≠ "" :=
  (not_isBlank_of_renderTarget h).imp ne_empty_of_isBlankText_eq_false
    ne_empty_of_isBlankText_eq_false

/-! ### The identity in the fields of a patch -/

theorem isCanonical_identifyMetadata (t : TargetRef) {metadata : List (String × Value)}
    (h : Value.IsCanonical (.object metadata)) :
    Value.IsCanonical (.object (identifyMetadata t metadata)) := by
  have hnamed : Value.IsCanonical (.object (Fields.put "name" (.string t.name) metadata)) :=
    ⟨h.1.put _ _, h.2.put _ trivial⟩
  rw [identifyMetadata]
  split
  · exact ⟨hnamed.1.erase _, hnamed.2.erase _⟩
  · exact ⟨hnamed.1.put _ _, hnamed.2.put _ trivial⟩

theorem isCanonical_metadata {fields : List (String × Value)}
    (h : Value.IsCanonical (.object fields)) :
    Value.IsCanonical
      (.object (((Fields.get? "metadata" fields).bind Value.fields?).getD [])) := by
  cases hget : Fields.get? "metadata" fields with
  | none => exact ⟨Fields.ordered_nil, trivial⟩
  | some v =>
      cases v with
      | object metadata => exact h.2.of_get? hget
      | _ => exact ⟨Fields.ordered_nil, trivial⟩

theorem isCanonical_identify (t : TargetRef) {fields : List (String × Value)}
    (h : Value.IsCanonical (.object fields)) :
    Value.IsCanonical (.object (identify t fields)) := by
  have hmetadata := isCanonical_identifyMetadata t (isCanonical_metadata h)
  have hfields := (h.2.put "apiVersion" (Value.isCanonical_string t.apiVersion)).put "kind"
    (Value.isCanonical_string t.kind)
  exact ⟨((h.1.put _ _).put _ _).put _ _, hfields.put _ hmetadata⟩

theorem get?_name_identifyMetadata (t : TargetRef) (metadata : List (String × Value)) :
    Fields.get? "name" (identifyMetadata t metadata) = some (.string t.name) := by
  rw [identifyMetadata]
  split
  · rw [Fields.get?_erase, if_neg (by decide), Fields.get?_put_self]
  · rw [Fields.get?_put, if_neg (by decide), Fields.get?_put_self]

theorem get?_namespace_identifyMetadata (t : TargetRef) (metadata : List (String × Value)) :
    Fields.get? "namespace" (identifyMetadata t metadata) =
      if t.namespace = "" then none else some (.string t.namespace) := by
  rw [identifyMetadata]
  split
  · rw [Fields.get?_erase, if_pos rfl]
  · rw [Fields.get?_put_self]

/-- A body that was given the identity of a target bears it, whatever stood there before. -/
theorem identifies_identify (t : TargetRef) (fields : List (String × Value)) :
    t.Identifies (.object (identify t fields)) where
  apiVersion := by
    rw [Value.get?_object, identify, Fields.get?_put, if_neg (by decide), Fields.get?_put,
      if_neg (by decide), Fields.get?_put_self]
  kind := by
    rw [Value.get?_object, identify, Fields.get?_put, if_neg (by decide), Fields.get?_put_self]
  metadata := by
    refine ⟨identifyMetadata t (((Fields.get? "metadata" fields).bind Value.fields?).getD []), ?_,
      get?_name_identifyMetadata t _, get?_namespace_identifyMetadata t _⟩
    rw [Value.get?_object, identify, Fields.get?_put_self]

end Patch

/-! ### Rendered patches -/

/-- The patch was rendered for the target: it selects by it and bears its identity. -/
structure RenderedPatch.RenderedFor (p : RenderedPatch) (t : TargetRef) : Prop where
  /-- The documents are selected by the target. -/
  target_eq : p.target = Selector.ofTarget t
  /-- The target has a kind. -/
  kind_ne : t.kind ≠ ""
  /-- The target has a name. -/
  name_ne : t.name ≠ ""
  /-- The fields bear the identity of the target. -/
  identifies : t.Identifies (.object p.fields)
  /-- The fields are canonical. -/
  isCanonical : Value.IsCanonical (.object p.fields)

namespace Patch

/-- A patch is rendered from a rendered target and a rendered body. -/
theorem exists_of_renderOne {context : PatchContext} {index : Nat} {t : PatchTemplate}
    {p : RenderedPatch} (h : renderOne context index t = .ok p) :
    ∃ target fields, renderTarget (keyAt index) context t.targetRef = .ok target ∧
      renderBody (keyAt index) context t.patch = .ok fields ∧
      p = ⟨keyAt index, identify target fields, Selector.ofTarget target⟩ := by
  rw [renderOne] at h
  split at h
  · cases h
  rename_i target htarget
  split at h
  · cases h
  rename_i fields hfields
  cases h
  exact ⟨target, fields, htarget, hfields, rfl⟩

/-- A rendered patch is for the rendered target of its template, and its body has been given that
identity. -/
theorem rendered_of_renderOne {context : PatchContext} {index : Nat} {t : PatchTemplate}
    {p : RenderedPatch} (h : renderOne context index t = .ok p) :
    ∃ target, renderTarget (keyAt index) context t.targetRef = .ok target ∧
      p.RenderedFor target := by
  obtain ⟨target, fields, htarget, hfields, rfl⟩ := exists_of_renderOne h
  obtain ⟨hkind, hname⟩ := ne_empty_of_renderTarget htarget
  exact ⟨target, htarget, rfl, hkind, hname, identifies_identify target fields,
    isCanonical_identify target (isCanonical_of_renderBody hfields)⟩

theorem rendered_of_renderFrom {context : PatchContext} {templates : List PatchTemplate}
    {index : Nat} {patches : PatchSet} (h : renderFrom context index templates = .ok patches) :
    ∀ p ∈ patches, ∃ t, p.RenderedFor t := by
  induction templates generalizing index patches with
  | nil =>
      cases h
      nofun
  | cons template rest ih =>
      rw [renderFrom] at h
      split at h
      · cases h
      rename_i p hp
      obtain ⟨more, hmore, rfl⟩ := map_eq_ok_iff.mp h
      intro q hq
      rcases List.mem_cons.mp hq with rfl | hq
      · obtain ⟨target, -, htarget⟩ := rendered_of_renderOne hp
        exact ⟨target, htarget⟩
      · exact ih hmore q hq

end Patch

/-- Every patch of a rendered set is rendered for some target. -/
theorem rendered_of_renderPatches {templates : List PatchTemplate} {trial : Trial}
    {patches : PatchSet} (h : renderPatches templates trial = .ok patches) :
    ∀ p ∈ patches, ∃ t, p.RenderedFor t :=
  Patch.rendered_of_renderFrom h

/-- What the body of a rendered patch reads as bears the identity of the target too. -/
theorem RenderedPatch.RenderedFor.content {p : RenderedPatch} {t : TargetRef}
    (h : p.RenderedFor t) {content : Value} (hread : Json.read? p.body = some content) :
    content.IsCanonical ∧ t.Identifies content := by
  refine ⟨Json.isCanonical_of_read? hread, ?_⟩
  rw [← TargetRef.identifies_numberless_iff, Json.numberless_of_read?_write h.isCanonical hread,
    TargetRef.identifies_numberless_iff]
  exact h.identifies

end ClusterTuning
