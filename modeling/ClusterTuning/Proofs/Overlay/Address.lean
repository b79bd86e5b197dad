import ClusterTuning.Overlay
import ClusterTuning.Proofs.Manifest
import ClusterTuning.Proofs.Merge.Fields
import ClusterTuning.Proofs.Patch

/-!
# ClusterTuning.Proofs.Overlay.Address

**What selectors see of a document, and what a patch does to it.**

A selector sees the group and version of the API, the kind, the name and the namespace: the
address of the document. A patch that selects a document keeps its kind, its name and its
namespace, but writes the version of the API that its target names, and an empty group or
version of a target has selected everything. So the version of a document can only lose
parts: versions are ordered by `Accepts`, and patching moves downwards.

## Main statements

* `isRead_patched`, `address_patched`: a selecting patch keeps the document well formed and
  moves it to the version of the target.
* `apiVersion_patched`: it writes the text of the target's version.
-/

namespace ClusterTuning

/-! ### The order of versions -/

namespace ApiVersion

/-- An empty part of a wanted version accepts everything, any other part itself. -/
def Accepts (want have_ : ApiVersion) : Prop :=
  (want.group = "" ∨ want.group = have_.group) ∧
    (want.version = "" ∨ want.version = have_.version)

theorem Accepts.refl (v : ApiVersion) : Accepts v v :=
  ⟨Or.inr rfl, Or.inr rfl⟩

theorem Accepts.trans {a b c : ApiVersion} (h : Accepts a b) (h' : Accepts b c) : Accepts a c := by
  constructor
  · rcases h.1 with ha | ha
    · exact Or.inl ha
    · exact ha ▸ h'.1
  · rcases h.2 with ha | ha
    · exact Or.inl ha
    · exact ha ▸ h'.2

/-- Two versions that accept each other are one: what each of them leaves open the other does too.
-/
theorem Accepts.antisymm {a b : ApiVersion} (h : Accepts a b) (h' : Accepts b a) : a = b := by
  obtain ⟨group, version⟩ := a
  obtain ⟨group', version'⟩ := b
  simp only [Accepts] at h h'
  simp only [mk.injEq]
  constructor
  · rcases h.1 with ha | ha
    · rcases h'.1 with hb | hb
      · rw [ha, hb]
      · exact hb.symm
    · exact ha
  · rcases h.2 with ha | ha
    · rcases h'.2 with hb | hb
      · rw [ha, hb]
      · exact hb.symm
    · exact ha

end ApiVersion

/-! ### Addresses -/

/-- What selectors see of a document. -/
structure Address where
  /-- The version of the API. -/
  version : ApiVersion
  /-- The kind. -/
  kind : ResourceKind
  /-- The name. -/
  name : String
  /-- The namespace in which the document lies. -/
  «namespace» : String
deriving DecidableEq

namespace Document

/-- Group and version of the API of a document. -/
def groupVersion (doc : Document) : ApiVersion :=
  ApiVersion.ofString doc.apiVersion

/-- The address of a document. -/
def address (doc : Document) : Address :=
  ⟨doc.groupVersion, doc.kind, doc.name, doc.effectiveNamespace⟩

end Document

namespace Selector

/-- The version that a selector wants. -/
def wanted (s : Selector) : ApiVersion :=
  ⟨s.group, s.version⟩

theorem accepts_iff {want have_ : String} :
    accepts want have_ = true ↔ want = "" ∨ want = have_ := by
  simp [accepts]

theorem selects_iff {s : Selector} {doc : Document} :
    s.selects doc = true ↔ s.wanted.Accepts doc.groupVersion ∧ accepts s.kind doc.kind.name = true ∧
      accepts s.name doc.name = true ∧ accepts s.namespace doc.effectiveNamespace = true := by
  simp only [selects, Bool.and_eq_true, accepts_iff, ApiVersion.Accepts, wanted,
    Document.groupVersion, and_assoc]

/-- Selectors see no more than addresses. -/
theorem selects_eq_of_address_eq {s : Selector} {a b : Document} (h : a.address = b.address) :
    s.selects a = s.selects b := by
  simp only [Document.address, Address.mk.injEq] at h
  obtain ⟨hversion, hkind, hname, hnamespace⟩ := h
  rw [Bool.eq_iff_iff, selects_iff, selects_iff, hversion, hkind, hname, hnamespace]

end Selector

/-! ### A patch merged into a document -/

namespace Value

theorem mergeAt_string (old : Option Value) (text : String) :
    mergeAt old (.string text) = some (.string text) := by
  cases old <;> rfl

theorem exists_fields_of_get? {v w : Value} {key : String} (h : v.get? key = some w) :
    ∃ fields, v = .object fields := by
  cases v with
  | object fields => exact ⟨fields, rfl⟩
  | _ => cases h

/-- Where a patch holds a text, the result holds that text. -/
theorem get?_mergePatch_of_text {fields : List (String × Value)} {patch : Value} {key text : String}
    (hpatch : patch.IsCanonical) (h : patch.get? key = some (.string text)) :
    (mergePatch (.object fields) patch).get? key = some (.string text) := by
  obtain ⟨entries, rfl⟩ := exists_fields_of_get? h
  rw [mergePatch, get?_object, get?_mergeFields_of_get? hpatch.1 h, mergeAt_string]

/-- Where both hold an object, so does the result. -/
theorem get?_mergePatch_of_objects {fields inner more : List (String × Value)} {patch : Value}
    {key : String} (hpatch : patch.IsCanonical)
    (hfields : Fields.get? key fields = some (.object inner)) (h : patch.get? key = some (.object more)) :
    (mergePatch (.object fields) patch).get? key = some (.object (mergeFields inner more)) := by
  obtain ⟨entries, rfl⟩ := exists_fields_of_get? h
  rw [mergePatch, get?_object, get?_mergeFields_of_get? hpatch.1 h, hfields, mergeAt_some _ rfl,
    mergePatch]

end Value

namespace Document

variable {doc : Document} {t : TargetRef} {content : Value}

/-- A patch that bears the identity of its document's kind leaves a document as documents are read.
-/
theorem isRead_patched (hdoc : doc.IsRead) (hcanonical : content.IsCanonical)
    (hcontent : t.Identifies content) (hkind : doc.kind.name = t.kind) :
    (doc.patched content).IsRead := by
  obtain ⟨fields, hfields⟩ := hdoc.exists_fields
  refine ⟨?_, Value.isCanonical_mergePatch content hdoc.isCanonical hcanonical, ?_⟩
  · obtain ⟨patch, rfl⟩ := Value.exists_fields_of_get? hcontent.kind
    rw [patched, hfields]
    rfl
  · have htext : textAt "kind" (doc.patched content).value = t.kind := by
      rw [textAt, patched, hfields, Value.get?_mergePatch_of_text hcanonical hcontent.kind]
      rfl
    rw [ofValue, htext, ← hkind, ← hdoc.textAt_kind]
    exact hdoc.kind_eq

/-- A patch writes the text of its target's version. -/
theorem apiVersion_patched (hdoc : doc.IsRead) (hcanonical : content.IsCanonical)
    (hcontent : t.Identifies content) : (doc.patched content).apiVersion = t.apiVersion := by
  obtain ⟨fields, hfields⟩ := hdoc.exists_fields
  rw [apiVersion, textAt, patched, hfields,
    Value.get?_mergePatch_of_text hcanonical hcontent.apiVersion]
  rfl

/-- A patch for a document of its target's name and namespace keeps both. -/
theorem name_namespace_patched (hdoc : doc.IsRead) (hcanonical : content.IsCanonical)
    (hcontent : t.Identifies content) (hname : doc.name = t.name) (hne : t.name ≠ "")
    (hnamespace : t.namespace = "" ∨ t.namespace = doc.effectiveNamespace) :
    (doc.patched content).name = doc.name ∧
      (doc.patched content).effectiveNamespace = doc.effectiveNamespace := by
  obtain ⟨fields, hfields⟩ := hdoc.exists_fields
  obtain ⟨metadata, hmetadata⟩ := exists_metadata (hname ▸ hne)
  obtain ⟨more, hmore, hmoreName, hmoreNamespace⟩ := hcontent.metadata
  obtain ⟨patch, rfl⟩ := Value.exists_fields_of_get? hmore
  have hmoreCanonical : Value.IsCanonical (.object more) := hcanonical.2.of_get? hmore
  have hinner : Fields.get? "metadata" fields = some (.object metadata) := by
    rw [hfields] at hmetadata
    exact hmetadata
  -- the metadata of both are objects, so they are merged field by field
  have hmerged : (doc.patched (.object patch)).value.get? "metadata" =
      some (.object (Value.mergeFields metadata more)) := by
    rw [patched, hfields]
    exact Value.get?_mergePatch_of_objects hcanonical hinner hmore
  constructor
  · rw [hname, name, metadataText?_of_metadata hmerged,
      Value.get?_mergeFields_of_get? hmoreCanonical.1 hmoreName, Value.mergeAt_string]
    rfl
  · rw [effectiveNamespace, namespace?, metadataText?_of_metadata hmerged]
    split at hmoreNamespace
    · rw [Value.get?_mergeFields_of_get?_eq_none hmoreCanonical.1 hmoreNamespace,
        ← metadataText?_of_metadata hmetadata]
      rfl
    · rename_i hns
      rw [Value.get?_mergeFields_of_get? hmoreCanonical.1 hmoreNamespace, Value.mergeAt_string,
        ← hnamespace.resolve_left hns]
      simp [Option.filter, hns]

/-- A rendered patch moves a document it selects to the version of its target. -/
theorem address_patched {p : RenderedPatch} (hdoc : doc.IsRead) (hp : p.RenderedFor t)
    (hcanonical : content.IsCanonical) (hcontent : t.Identifies content)
    (hselects : p.target.selects doc = true) :
    (doc.patched content).IsRead ∧
      (doc.patched content).address = { doc.address with version := p.target.wanted } := by
  rw [Selector.selects_iff, hp.target_eq] at hselects
  obtain ⟨-, hkind, hname, hnamespace⟩ := hselects
  -- a target has a kind and a name, so these two are never wanted by an empty text
  have hkind := (Selector.accepts_iff.mp hkind).resolve_left hp.kind_ne
  have hname := (Selector.accepts_iff.mp hname).resolve_left hp.name_ne
  obtain ⟨hname', hnamespace'⟩ := name_namespace_patched hdoc hcanonical hcontent hname.symm
    hp.name_ne (Selector.accepts_iff.mp hnamespace)
  refine ⟨isRead_patched hdoc hcanonical hcontent hkind.symm, ?_⟩
  rw [address, hname', hnamespace', groupVersion, apiVersion_patched hdoc hcanonical hcontent,
    hp.target_eq]
  rfl

end Document

end ClusterTuning
