import ClusterTuning.Proofs.Patch
import Mathlib.Data.List.TakeWhile

/-!
# ClusterTuning.Proofs.Patch.Target

**A patch cannot aim at another object than its target.**

The selector of a rendered patch and the identity that its body bears are both made from the
rendered target, but by different routes: the selector takes the version of the API apart, the
body takes the text as it is, and an empty namespace is a wildcard in the one and no field in
the other. Here both are compared directly, without the target between them. The identity is
written over what the body holds, so nothing in the body can stand against it, and no other
field is touched.

## Main statements

* `renderFrom_eq_ok_iff`: rendering succeeds when it succeeds template by template.
* `renderPatches_aimed`: every rendered body names the object of its selector, and holds what
  the body held everywhere else.
-/

namespace ClusterTuning

namespace Patch

/-! ### Template by template -/

/-- Patches are rendered one by one: each template at its own place gives its own patch. -/
theorem renderFrom_eq_ok_iff {context : PatchContext} {start : Nat}
    {templates : List PatchTemplate} {patches : PatchSet} :
    renderFrom context start templates = .ok patches ↔
      templates.mapIdx (fun i t => renderOne context (start + i) t) = patches.map Except.ok := by
  induction templates generalizing start patches with
  | nil =>
      rw [renderFrom, List.mapIdx_nil, Except.ok.injEq, eq_comm]
      simp
  | cons t rest ih =>
      have hplaces : (fun i t => renderOne context (start + (i + 1)) t) =
          fun i t => renderOne context (start + 1 + i) t := by
        funext i t
        rw [Nat.add_assoc, Nat.add_comm 1 i]
      rw [renderFrom, List.mapIdx_cons, Nat.add_zero, hplaces]
      cases hone : renderOne context start t with
      | error e => cases patches <;> simp
      | ok p =>
          simp only [map_eq_ok_iff, ih]
          constructor
          · rintro ⟨more, hmore, rfl⟩
            rw [List.map_cons, hmore]
          · intro h
            obtain ⟨q, more, rfl, hq, hmore⟩ := List.map_eq_cons_iff.mp h.symm
            exact ⟨more, hmore.symm, by rw [Except.ok.inj hq]⟩

theorem length_of_renderFrom {context : PatchContext} {start : Nat}
    {templates : List PatchTemplate} {patches : PatchSet}
    (h : renderFrom context start templates = .ok patches) :
    patches.length = templates.length := by
  have hlength := congrArg List.length (renderFrom_eq_ok_iff.mp h)
  simpa using hlength.symm

/-- Each patch is rendered of the template at its place, under the key of that place. -/
theorem renderOne_of_renderFrom {context : PatchContext} {start : Nat}
    {templates : List PatchTemplate} {patches : PatchSet}
    (h : renderFrom context start templates = .ok patches) {i : Nat} {p : RenderedPatch}
    (hp : patches[i]? = some p) :
    ∃ t, templates[i]? = some t ∧ renderOne context (start + i) t = .ok p := by
  have hplace := congrArg (fun results => results[i]?) (renderFrom_eq_ok_iff.mp h)
  simp only [List.getElem?_mapIdx, List.getElem?_map, hp, Option.map_some,
    Option.map_eq_some_iff] at hplace
  exact hplace

/-! ### What the identity of a target leaves -/

/-- The metadata of a body, where it is an object. -/
def metadataOf (fields : List (String × Value)) : List (String × Value) :=
  ((Fields.get? "metadata" fields).bind Value.fields?).getD []

theorem get?_identify_of_ne (t : TargetRef) (fields : List (String × Value)) {key : String}
    (hversion : key ≠ "apiVersion") (hkind : key ≠ "kind") (hmetadata : key ≠ "metadata") :
    Fields.get? key (identify t fields) = Fields.get? key fields := by
  rw [identify, Fields.get?_put_of_ne hmetadata.symm, Fields.get?_put_of_ne hkind.symm,
    Fields.get?_put_of_ne hversion.symm]

theorem get?_metadata_identify (t : TargetRef) (fields : List (String × Value)) :
    Fields.get? "metadata" (identify t fields) =
      some (.object (identifyMetadata t (metadataOf fields))) := by
  rw [identify, Fields.get?_put_self, metadataOf]

theorem get?_identifyMetadata_of_ne (t : TargetRef) (metadata : List (String × Value))
    {key : String} (hname : key ≠ "name") (hnamespace : key ≠ "namespace") :
    Fields.get? key (identifyMetadata t metadata) = Fields.get? key metadata := by
  rw [identifyMetadata]
  split
  · rw [Fields.get?_erase, if_neg hnamespace.symm, Fields.get?_put_of_ne hname.symm]
  · rw [Fields.get?_put_of_ne hnamespace.symm, Fields.get?_put_of_ne hname.symm]

/-! ### Targets are not blank -/

theorem exists_not_blank {text : String} (h : ¬ isBlankText text = true) :
    ∃ c ∈ text.toList, Text.isBlank c = false := by
  by_contra hnone
  have hall : ∀ c ∈ text.toList, Text.isBlank c = true := by
    intro c hc
    by_contra hc'
    exact hnone ⟨c, hc, Bool.eq_false_iff.mpr hc'⟩
  have hdrop : text.toList.dropWhile Text.isBlank = [] := List.dropWhile_eq_nil_iff.mpr hall
  have htrim : Text.trim text.toList = [] := by
    rw [Text.trim, Text.trimWhile, hdrop, Text.dropEndWhile_nil]
  exact h (by rw [isBlankText, htrim, List.isEmpty_nil])

end Patch

/-! ### Body and selector -/

/-- The patch names the object of its own selector, and everywhere else holds what the body held
from which it was made. -/
structure RenderedPatch.Aimed (p : RenderedPatch) (body : List (String × Value)) : Prop where
  /-- The kind is the one that is selected. -/
  kind : Fields.get? "kind" p.fields = some (.string p.target.kind)
  /-- The selected kind is not blank. -/
  kind_not_blank : ∃ c ∈ p.target.kind.toList, Text.isBlank c = false
  /-- The version of the API has the group and the version that are selected. -/
  apiVersion : ∃ text, Fields.get? "apiVersion" p.fields = some (.string text) ∧
    ApiVersion.ofString text = ⟨p.target.group, p.target.version⟩
  /-- The metadata has the name and the namespace that are selected, no namespace where none
  is, and otherwise what the metadata of the body has. -/
  metadata : ∃ metadata, Fields.get? "metadata" p.fields = some (.object metadata) ∧
    Fields.get? "name" metadata = some (.string p.target.name) ∧
    Fields.get? "namespace" metadata =
      (if p.target.namespace = "" then none else some (.string p.target.namespace)) ∧
    ∀ key, key ≠ "name" → key ≠ "namespace" →
      Fields.get? key metadata = Fields.get? key (Patch.metadataOf body)
  /-- The selected name is not blank. -/
  name_not_blank : ∃ c ∈ p.target.name.toList, Text.isBlank c = false
  /-- All other fields are those of the body. -/
  others : ∀ key, key ≠ "apiVersion" → key ≠ "kind" → key ≠ "metadata" →
    Fields.get? key p.fields = Fields.get? key body

/-- A rendered patch is aimed at its target: its body is that of the template except for the
identity. -/
theorem Patch.aimed_of_renderOne {context : PatchContext} {index : Nat} {t : PatchTemplate}
    {p : RenderedPatch} (h : renderOne context index t = .ok p) :
    ∃ body, renderBody (keyAt index) context t.patch = .ok body ∧ p.Aimed body := by
  obtain ⟨target, body, htarget, hbody, rfl⟩ := exists_of_renderOne h
  obtain ⟨hkind, hname⟩ := not_isBlank_of_renderTarget htarget
  have hidentifies := identifies_identify target body
  refine ⟨body, hbody, ?_⟩
  constructor
  case kind => exact hidentifies.kind
  case kind_not_blank => exact exists_not_blank hkind
  case apiVersion => exact ⟨target.apiVersion, hidentifies.apiVersion, rfl⟩
  case metadata =>
    refine ⟨identifyMetadata target (metadataOf body), get?_metadata_identify target body,
      get?_name_identifyMetadata target _, get?_namespace_identifyMetadata target _, ?_⟩
    intro key hkey hns
    exact get?_identifyMetadata_of_ne target _ hkey hns
  case name_not_blank => exact exists_not_blank hname
  case others =>
    intro key hversion hkind hmetadata
    exact get?_identify_of_ne target body hversion hkind hmetadata

/-- Every rendered patch is an object that names the object of its selector, whatever the body of
its template says, and holds all else that the body says. Its text reads as that object, as far
as it is not numbers. -/
theorem renderPatches_aimed {templates : List PatchTemplate} {trial : Trial} {patches : PatchSet}
    (h : renderPatches templates trial = .ok patches) :
    patches.length = templates.length ∧
      ∀ (i : Nat) (p : RenderedPatch), patches[i]? = some p →
        (∃ t body, templates[i]? = some t ∧
          Patch.renderBody (Patch.keyAt i) trial.context t.patch = .ok body ∧ p.Aimed body) ∧
        ∀ content, Json.read? p.body = some content →
          content.numberless = (Value.object p.fields).numberless := by
  refine ⟨Patch.length_of_renderFrom h, fun i p hp => ⟨?_, fun content hcontent => ?_⟩⟩
  · obtain ⟨t, ht, hone⟩ := Patch.renderOne_of_renderFrom h hp
    rw [Nat.zero_add] at hone
    obtain ⟨body, hbody, haimed⟩ := Patch.aimed_of_renderOne hone
    exact ⟨t, body, ht, hbody, haimed⟩
  · obtain ⟨_, hrendered⟩ := rendered_of_renderPatches h p (List.mem_of_getElem? hp)
    exact Json.numberless_of_read?_write hrendered.isCanonical hcontent

/-- A template for a deployment, whose body makes itself out to be a secret: the name of the field
is an expression, and the metadata is no object. -/
def disguisedTemplate : PatchTemplate where
  patch := "\x7b\"\x7b\x7b 'kind' \x7d\x7d\":\"Secret\",\"metadata\":7,\"spec\":\"\x7b\x7b Values|length \x7d\x7d\"\x7d"
  targetRef := { apiVersion := "apps/v1", kind := "Deployment", name := "web" }

/-- The rendered body still says that it is a secret, the patch does not. -/
theorem renderPatches_aimed_disguised : ∃ patches,
    renderPatches [disguisedTemplate] ⟨"t-1", "", 1, []⟩ = .ok patches ∧
      ∃ p body, patches[0]? = some p ∧ Fields.get? "kind" body = some (.string "Secret") ∧
        Patch.renderBody (Patch.keyAt 0) (Trial.context ⟨"t-1", "", 1, []⟩)
          disguisedTemplate.patch = .ok body ∧ p.Aimed body := by
  have hpatches : renderPatches [disguisedTemplate] ⟨"t-1", "", 1, []⟩ =
      .ok [⟨"patch-0", [("apiVersion", .string "apps/v1"), ("kind", .string "Deployment"),
        ("metadata", .object [("name", .string "web")]), ("spec", .number (.int 0))],
        ⟨"apps", "v1", "Deployment", "web", ""⟩⟩] := by
    decide +kernel
  have hbody : Patch.renderBody (Patch.keyAt 0) (Trial.context ⟨"t-1", "", 1, []⟩)
      disguisedTemplate.patch = .ok [("kind", .string "Secret"), ("metadata", .number (.int 7)),
        ("spec", .number (.int 0))] := by
    decide +kernel
  obtain ⟨⟨t, body, ht, hrendered, haimed⟩, -⟩ := (renderPatches_aimed hpatches).2 0 _ rfl
  cases ht
  rw [hbody] at hrendered
  cases hrendered
  exact ⟨_, hpatches, _, _, rfl, rfl, hbody, haimed⟩

end ClusterTuning
