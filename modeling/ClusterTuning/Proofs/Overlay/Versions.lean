import ClusterTuning.Proofs.Overlay
import ClusterTuning.Proofs.Patch.Target
import ClusterTuning.Proofs.Text

/-!
# ClusterTuning.Proofs.Overlay.Versions

**Which versions of the API a patch touches.**

The version of a target is taken apart into a group and a version, and an empty one of the two
selects everything. A text without a slash has an empty group. So the same text that names the core
group in a document leaves the group open in a target, and a patch for a resource of the core group
is merged into every resource of its kind and name that has the same version in another group.

A patch touches no version but its own exactly if it names both parts (`selected_versions_iff`). For
the converse a document is needed that the patch selects and that has another version. The fields of
the patch make one, as they bear the identity of its target.

## Main statements

* `ApiVersion.exists_accepted_ne`: a version that lacks a part accepts another one.
* `exists_selected_iff`: the versions of the documents that a rendered patch selects.
* `selected_versions_iff`: which documents the patches of a trial select and change.
-/

namespace ClusterTuning

/-! ### Versions in one text -/

namespace ApiVersion

/-- A version of which no part is left open. -/
def IsExact (v : ApiVersion) : Prop :=
  v.group ≠ "" ∧ v.version ≠ ""

theorem Accepts.eq_of_isExact {v w : ApiVersion} (h : v.Accepts w) (hexact : v.IsExact) :
    v = w := by
  have hgroup : v.group = w.group := h.1.resolve_left hexact.1
  have hversion : v.version = w.version := h.2.resolve_left hexact.2
  cases v
  cases w
  simp_all

theorem ofString_slash (group : String) {version : String} (h : '/' ∉ version.toList) :
    ofString (group ++ "/" ++ version) = ⟨group, version⟩ := by
  have hcut := Text.cutAtLast_append group.toList h
  have htext : (group ++ "/" ++ version).toList = group.toList ++ '/' :: version.toList := by simp
  rw [ofString, htext, hcut]
  simp

/-- The version stands behind the last slash. -/
theorem slash_not_mem_version (text : String) : '/' ∉ (ofString text).version.toList := by
  rw [ofString]
  cases hcut : Text.cutAtLast '/' text.toList with
  | none => exact Text.not_mem_of_cutAtLast_eq_none hcut
  | some parts => simpa using Text.not_mem_of_cutAtLast hcut

/-- A version that lacks a part accepts another version. -/
theorem exists_accepted_ne {text : String} (h : ¬ (ofString text).IsExact) :
    ∃ other, (ofString text).Accepts (ofString other) ∧ ofString other ≠ ofString text := by
  by_cases hgroup : (ofString text).group = ""
  · -- the same version in some group
    have hother := ofString_slash "x" (slash_not_mem_version text)
    refine ⟨_, by rw [hother]; exact ⟨.inl hgroup, .inr rfl⟩, fun heq => ?_⟩
    rw [← heq, hother] at hgroup
    simp at hgroup
  · have hversion : (ofString text).version = "" := by
      by_contra hversion
      exact h ⟨hgroup, hversion⟩
    -- where the group is given, any version in the place of the missing one will do
    have hother := ofString_slash (ofString text).group (show '/' ∉ "x".toList by decide)
    refine ⟨_, by rw [hother]; exact ⟨.inr rfl, .inl hversion⟩, fun heq => ?_⟩
    rw [← heq, hother] at hversion
    simp at hversion

end ApiVersion

/-! ### What a patch selects -/

/-- A value with the identity of a target, seen as a document, is selected by it. -/
theorem TargetRef.Identifies.selects {t : TargetRef} {v : Value} (h : t.Identifies v)
    {s : Selector} (hs : s.wanted.Accepts (ApiVersion.ofString t.apiVersion))
    (hkind : s.kind = t.kind) (hname : s.name = t.name) (hnamespace : s.namespace = t.namespace) :
    s.selects (Document.ofValue v) = true := by
  obtain ⟨metadata, hmetadata, hmetaName, hmetaNamespace⟩ := h.metadata
  have hdocKind : (Document.ofValue v).kind.name = t.kind := by
    rw [Document.ofValue, ResourceKind.name_ofName, Document.textAt, h.kind]
    rfl
  have hdocName : (Document.ofValue v).name = t.name := by
    rw [Document.name, Document.metadataText?_of_metadata hmetadata, hmetaName]
    rfl
  have hdocVersion : (Document.ofValue v).groupVersion = ApiVersion.ofString t.apiVersion := by
    rw [Document.groupVersion, Document.apiVersion, Document.ofValue, Document.textAt,
      h.apiVersion]
    rfl
  rw [Selector.selects_iff, hdocVersion, hdocKind, hdocName]
  refine ⟨hs, Selector.accepts_iff.mpr (.inr hkind), Selector.accepts_iff.mpr (.inr hname),
    Selector.accepts_iff.mpr ?_⟩
  by_cases hns : t.namespace = ""
  · exact .inl (hnamespace.trans hns)
  · right
    rw [if_neg hns] at hmetaNamespace
    rw [hnamespace, Document.effectiveNamespace, Document.namespace?,
      Document.metadataText?_of_metadata hmetadata, hmetaNamespace]
    simp [Value.text?, Option.filter, hns]

namespace RenderedPatch

variable {p : RenderedPatch} {t : TargetRef}

theorem RenderedFor.apiVersion_eq (h : p.RenderedFor t) : p.apiVersion = t.apiVersion := by
  rw [apiVersion, Document.textAt, h.identifies.apiVersion]
  rfl

theorem RenderedFor.wanted_eq (h : p.RenderedFor t) :
    p.target.wanted = ApiVersion.ofString p.apiVersion := by
  rw [h.target_eq, h.apiVersion_eq]
  rfl

/-- There is a document for a patch under each version that its target accepts, and under no
other. -/
theorem RenderedFor.exists_selected_iff (h : p.RenderedFor t) (version : String) :
    (∃ doc : Document, doc.IsRead ∧ doc.apiVersion = version ∧ p.target.selects doc = true) ↔
      (ApiVersion.ofString p.apiVersion).Accepts (ApiVersion.ofString version) := by
  constructor
  · rintro ⟨doc, -, rfl, hselects⟩
    rw [← h.wanted_eq]
    exact (Selector.selects_iff.mp hselects).1
  · intro haccepts
    -- the patch itself as a document, under the other version
    have hidentifies : { t with apiVersion := version }.Identifies
        (.object (Fields.put "apiVersion" (.string version) p.fields)) := by
      refine ⟨Fields.get?_put_self _ _ _, ?_, ?_⟩
      · exact (Fields.get?_put_of_ne (by decide) _ _).trans h.identifies.kind
      · obtain ⟨metadata, hmetadata, hfields⟩ := h.identifies.metadata
        exact ⟨metadata, (Fields.get?_put_of_ne (by decide) _ _).trans hmetadata, hfields⟩
    refine ⟨.ofValue (.object (Fields.put "apiVersion" (.string version) p.fields)),
      ⟨rfl, ?_, rfl⟩, ?_, hidentifies.selects ?_ ?_ ?_ ?_⟩
    · exact ⟨h.isCanonical.1.put _ _, h.isCanonical.2.put _ trivial⟩
    · rw [Document.apiVersion, Document.ofValue, Document.textAt, hidentifies.apiVersion]
      rfl
    · rw [h.wanted_eq]
      exact haccepts
    · rw [h.target_eq]
      rfl
    · rw [h.target_eq]
      rfl
    · rw [h.target_eq]
      rfl

/-- A patch selects documents of its own version alone exactly if it names both parts of it. -/
theorem RenderedFor.selects_own_iff (h : p.RenderedFor t) :
    (∀ doc : Document, doc.IsRead → p.target.selects doc = true →
      doc.groupVersion = ApiVersion.ofString p.apiVersion) ↔
      (ApiVersion.ofString p.apiVersion).IsExact := by
  constructor
  · intro hown
    by_contra hopen
    obtain ⟨other, haccepts, hne⟩ := ApiVersion.exists_accepted_ne hopen
    obtain ⟨doc, hdoc, rfl, hselects⟩ := (h.exists_selected_iff other).mpr haccepts
    exact hne (hown doc hdoc hselects)
  · intro hexact doc hdoc hselects
    have haccepts := (h.exists_selected_iff doc.apiVersion).mp ⟨doc, hdoc, rfl, hselects⟩
    exact (haccepts.eq_of_isExact hexact).symm

end RenderedPatch

/-! ### What patches change -/

section

variable {sources : List (String × Bytes)} {set patched : ManifestSet}
  {templates : List PatchTemplate} {trial : Trial} {patches : PatchSet}

/-- A document that has changed was selected as it was read. -/
theorem exists_selecting_of_changed (hpatched : applyPatches set patches = .ok patched) {i : Nat}
    {doc : Document} (hdoc : set[i]? = some doc) (hchanged : patched[i]? ≠ some doc) :
    ∃ p ∈ patches, p.target.selects doc = true := by
  obtain ⟨-, rfl⟩ := applyPatches_eq_ok_iff.mp hpatched
  by_contra hnone
  refine hchanged ?_
  rw [List.getElem?_map, hdoc, Option.map_some, Document.run_of_not_selects]
  intro p hp
  by_contra hselects
  exact hnone ⟨p, hp, Bool.eq_true_of_not_eq_false hselects⟩

/-- Where all patches name both parts, those that select a document name its version. -/
theorem wanted_of_isExact (hpatches : renderPatches templates trial = .ok patches)
    (hexact : ∀ p ∈ patches, (ApiVersion.ofString p.apiVersion).IsExact) {doc : Document}
    (hdoc : doc.IsRead) {p : RenderedPatch} (hp : p ∈ patches)
    (hselects : p.target.selects doc = true) :
    p.target.wanted = doc.groupVersion ∧ doc.groupVersion = ApiVersion.ofString p.apiVersion := by
  obtain ⟨target, htarget⟩ := rendered_of_renderPatches hpatches p hp
  have hown := htarget.selects_own_iff.mpr (hexact p hp) doc hdoc hselects
  exact ⟨htarget.wanted_eq.trans hown.symm, hown⟩

/-- Where all patches name both parts, every document keeps its version. -/
theorem groupVersion_of_isExact (hset : ManifestSet.extendAll [] sources = .ok set)
    (hpatches : renderPatches templates trial = .ok patches)
    (hpatched : applyPatches set patches = .ok patched)
    (hexact : ∀ p ∈ patches, (ApiVersion.ofString p.apiVersion).IsExact) :
    patched.map Document.groupVersion = set.map Document.groupVersion := by
  obtain ⟨hread, rfl⟩ := applyPatches_eq_ok_iff.mp hpatched
  have hlegible := legible_of_renderPatches hpatches hread
  rw [List.map_map]
  refine List.map_congr_left fun doc hdoc => ?_
  have hdoc := ManifestSet.isRead_of_extendAll hset doc hdoc
  exact congrArg Address.version (Document.run_of_wanted hdoc hlegible fun p hp hselects =>
    (wanted_of_isExact hpatches hexact hdoc hp hselects).1).1

end

/-- Which versions of the API the patches of a trial touch.

The version that a patch names is the rendered one of its template. There is a document that the
patch selects under each version which this one accepts, where an empty group or version accepts
all, and under no other. So all documents that it selects have its group and its version exactly if
it names both, which a version of the core group does not.

A document of a manifest that the patches change is selected by one of them, as it was read. Where
all patches name both parts, this one has named the version of the document, and every document
keeps its group and its version. -/
theorem selected_versions_iff {templates : List PatchTemplate} {trial : Trial}
    {patches : PatchSet} (hpatches : renderPatches templates trial = .ok patches) :
    (∀ (i : Nat) (p : RenderedPatch), patches[i]? = some p →
      (∃ t, templates[i]? = some t ∧ Patch.renderText (Patch.keyAt i) trial.context
        t.targetRef.apiVersion = .ok p.apiVersion) ∧
      (∀ version : String, (∃ doc : Document, doc.IsRead ∧ doc.apiVersion = version ∧
          p.target.selects doc = true) ↔
        (ApiVersion.ofString p.apiVersion).Accepts (ApiVersion.ofString version)) ∧
      ((∀ doc : Document, doc.IsRead → p.target.selects doc = true →
          doc.groupVersion = ApiVersion.ofString p.apiVersion) ↔
        (ApiVersion.ofString p.apiVersion).IsExact)) ∧
    ∀ (sources : List (String × Bytes)) (set patched : ManifestSet),
      ManifestSet.extendAll [] sources = .ok set → applyPatches set patches = .ok patched →
        (∀ (i : Nat) (doc : Document), set[i]? = some doc → patched[i]? ≠ some doc →
          ∃ p ∈ patches, p.target.selects doc = true) ∧
        ((∀ p ∈ patches, (ApiVersion.ofString p.apiVersion).IsExact) →
          patched.map Document.groupVersion = set.map Document.groupVersion ∧
          ∀ (i : Nat) (doc : Document), set[i]? = some doc → patched[i]? ≠ some doc →
            ∃ p ∈ patches, p.target.selects doc = true ∧
              doc.groupVersion = ApiVersion.ofString p.apiVersion) := by
  refine ⟨fun i p hp => ?_, fun sources set patched hset hpatched => ⟨?_, fun hexact => ⟨?_, ?_⟩⟩⟩
  · obtain ⟨t, ht, hone⟩ := Patch.renderOne_of_renderFrom hpatches hp
    rw [Nat.zero_add] at hone
    -- the selector of the patch and its body come from one rendered target
    obtain ⟨target, htarget, hfor⟩ := Patch.rendered_of_renderOne hone
    refine ⟨⟨t, ht, ?_⟩, hfor.exists_selected_iff, hfor.selects_own_iff⟩
    rw [hfor.apiVersion_eq]
    exact (Patch.parts_of_renderTarget htarget).1
  · intro i doc hdoc hchanged
    exact exists_selecting_of_changed hpatched hdoc hchanged
  · exact groupVersion_of_isExact hset hpatches hpatched hexact
  · intro i doc hdoc hchanged
    obtain ⟨p, hp, hselects⟩ := exists_selecting_of_changed hpatched hdoc hchanged
    have hread := ManifestSet.isRead_of_extendAll hset doc (List.mem_of_getElem? hdoc)
    exact ⟨p, hp, hselects, (wanted_of_isExact hpatches hexact hread hp hselects).2⟩

/-- A patch that names a group and a version of the deployment selects nothing of another one, and
leaves it where it is. -/
theorem selected_versions_iff_web : ∃ patches,
    renderPatches [webTemplate "apps/v1" "\x7b\"spec\":1\x7d"] ⟨"t-1", "", 1, []⟩ = .ok patches ∧
      (∃ p, patches[0]? = some p ∧ ∀ doc : Document, doc.IsRead → p.target.selects doc = true →
        doc.groupVersion = ApiVersion.ofString p.apiVersion) ∧
      ∃ patched : ManifestSet, applyPatches [web "apps/v1"] patches = .ok patched ∧
        patched.map Document.groupVersion = [web "apps/v1"].map Document.groupVersion := by
  have hpatches : renderPatches [webTemplate "apps/v1" "\x7b\"spec\":1\x7d"] ⟨"t-1", "", 1, []⟩ =
      .ok [webPatch "patch-0" "apps/v1" [("spec", .number (.int 1))]] := by
    decide +kernel
  have hpatched : applyPatches [web "apps/v1"]
      [webPatch "patch-0" "apps/v1" [("spec", .number (.int 1))]] =
      .ok [(web "apps/v1").folded [webPatch "patch-0" "apps/v1" [("spec", .number (.int 1))]]] := by
    decide +kernel
  have hexact : (ApiVersion.ofString
      (webPatch "patch-0" "apps/v1" [("spec", .number (.int 1))]).apiVersion).IsExact := by
    constructor <;> decide +kernel
  obtain ⟨hselected, hchanged⟩ := selected_versions_iff hpatches
  refine ⟨_, hpatches, ⟨_, rfl, (hselected 0 _ rfl).2.2.mpr hexact⟩, _, hpatched, ?_⟩
  refine ((hchanged _ _ _ extendAll_webSource hpatched).2 fun p hp => ?_).1
  rw [List.mem_singleton.mp hp]
  exact hexact

/-- Two services of one name, of the core group and of another one. -/
def servicesSource : String × Bytes :=
  ("web.yaml", Text.encode ("apiVersion: v1\nkind: Service\nmetadata:\n  name: web\n---\n" ++
    "apiVersion: serving.knative.dev/v1\nkind: Service\nmetadata:\n  name: web\n"))

/-- A service under a version of the API, with fields behind those that say what it is. -/
def service (apiVersion : String) (more : List (String × Value)) : Document :=
  ⟨.other "Service", .object ([("apiVersion", .string apiVersion), ("kind", .string "Service"),
    ("metadata", .object [("name", .string "web")])] ++ more)⟩

/-- A template for the service of the core group. -/
def serviceTemplate : PatchTemplate where
  patch := "\x7b\"spec\":\x7b\"type\":\"NodePort\"\x7d\x7d"
  targetRef := { apiVersion := "v1", kind := "Service", name := "web" }

/-- A patch for the service of the core group selects and changes the service of the other group,
which has its kind, its name and its namespace. -/
theorem core_group_left_open : ∃ (set : ManifestSet) (patches : PatchSet)
    (patched : ManifestSet), ManifestSet.extendAll [] [servicesSource] = .ok set ∧
    renderPatches [serviceTemplate] ⟨"t-1", "", 1, []⟩ = .ok patches ∧
    applyPatches set patches = .ok patched ∧
    ∃ p doc, patches[0]? = some p ∧ p.apiVersion = "v1" ∧ set[1]? = some doc ∧
      p.target.selects doc = true ∧ doc.groupVersion ≠ ApiVersion.ofString p.apiVersion ∧
      patched[1]? ≠ some doc := by
  refine ⟨[service "v1" [], service "serving.knative.dev/v1" []],
    [⟨"patch-0", [("apiVersion", .string "v1"), ("kind", .string "Service"),
      ("metadata", .object [("name", .string "web")]),
      ("spec", .object [("type", .string "NodePort")])], ⟨"", "v1", "Service", "web", ""⟩⟩],
    [service "v1" [("spec", .object [("type", .string "NodePort")])],
      service "v1" [("spec", .object [("type", .string "NodePort")])]], ?_, ?_, ?_,
    _, service "serving.knative.dev/v1" [], rfl, ?_, rfl, ?_, ?_, ?_⟩
  all_goals decide +kernel

end ClusterTuning
