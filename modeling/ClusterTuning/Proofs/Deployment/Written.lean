import ClusterTuning.Deployment
import ClusterTuning.Proofs.Manifest

/-!
# ClusterTuning.Proofs.Deployment.Written

**What a deployment writes for a document, and where it goes.**

The namespace in which a document was looked up is written into it, and so is the version of
the live object. Neither touches what the object is known by, so the cluster writes to the very
place where it has looked, whatever the namespace of the client.

## Main statements

* `written_upserted`: what is written is the document with its namespace and the live version.
* `target_written`: it is written to the object of the document's key.
* `resourceVersion?_written`: the version that the written object has.
-/

namespace ClusterTuning.Deployment

/-! ### Metadata of a document -/

/-- The document was read and has a name, so that it can be deployed. -/
structure Deployable (doc : Document) : Prop where
  /-- The document was read. -/
  isRead : doc.IsRead
  /-- The document has a name. -/
  name_ne : doc.name ≠ ""

/-- What a deployment writes for a document, given the version of the live object. -/
def written (doc : Document) (version : Option String) : Value :=
  let pinned := pinNamespace (ResourceKey.ofDocument doc) doc.value
  match version with
  | some version => changeMetadata (Fields.put "resourceVersion" (.string version)) pinned
  | none => pinned

theorem carryVersion_eq_written (doc : Document) (existing : Value) :
    carryVersion existing (pinNamespace (ResourceKey.ofDocument doc) doc.value) =
      written doc (resourceVersion? existing) := by
  unfold carryVersion written
  cases resourceVersion? existing <;> rfl

/-- Metadata with the namespace in which the document is looked up. -/
def pinnedMetadata (doc : Document) (metadata : List (String × Value)) : List (String × Value) :=
  match (ResourceKey.ofDocument doc).inNamespace? with
  | some ns => Fields.put "namespace" (.string ns) metadata
  | none => metadata

/-- The metadata that a deployment writes. -/
def writtenMetadata (doc : Document) (version : Option String)
    (metadata : List (String × Value)) : List (String × Value) :=
  match version with
  | some version => Fields.put "resourceVersion" (.string version) (pinnedMetadata doc metadata)
  | none => pinnedMetadata doc metadata

theorem changeMetadata_object {fields metadata : List (String × Value)}
    (h : Fields.get? "metadata" fields = some (.object metadata))
    (change : List (String × Value) → List (String × Value)) :
    changeMetadata change (.object fields) =
      .object (Fields.put "metadata" (.object (change metadata)) fields) := by
  simp only [changeMetadata, h]

/-- Pinning the namespace changes the metadata only. -/
theorem pinNamespace_eq {doc : Document} {fields metadata : List (String × Value)}
    (hordered : Fields.Ordered fields)
    (h : Fields.get? "metadata" fields = some (.object metadata)) :
    pinNamespace (ResourceKey.ofDocument doc) (.object fields) =
      .object (Fields.put "metadata" (.object (pinnedMetadata doc metadata)) fields) := by
  unfold pinNamespace pinnedMetadata
  cases (ResourceKey.ofDocument doc).inNamespace? with
  | some ns => exact changeMetadata_object h _
  | none => rw [Fields.put_eq_self hordered h]

/-- All that a deployment changes of a document is its metadata. -/
theorem Deployable.written_eq {doc : Document} (h : Deployable doc) :
    ∃ fields metadata, doc.value = .object fields ∧ Value.IsCanonical (.object metadata) ∧
      Fields.get? "metadata" fields = some (.object metadata) ∧
      ∀ version, written doc version = .object
        (Fields.put "metadata" (.object (writtenMetadata doc version metadata)) fields) := by
  obtain ⟨fields, hfields⟩ := h.isRead.exists_fields
  obtain ⟨metadata, hmetadata⟩ := Document.exists_metadata h.name_ne
  rw [hfields, Value.get?_object] at hmetadata
  have hcanonical := h.isRead.isCanonical
  rw [hfields] at hcanonical
  refine ⟨fields, metadata, hfields, hcanonical.2.of_get? hmetadata, hmetadata,
    fun version => ?_⟩
  unfold written
  rw [hfields, pinNamespace_eq hcanonical.1 hmetadata]
  cases version with
  | none => rfl
  | some version =>
      simp only [writtenMetadata]
      rw [changeMetadata_object (Fields.get?_put_self _ _ _), Fields.put_put]

/-! ### What the written metadata holds -/

/-- The version that is written is the given one, and else the one that the document has. -/
theorem get?_resourceVersion_writtenMetadata (doc : Document) (version : Option String)
    (metadata : List (String × Value)) :
    Fields.get? "resourceVersion" (writtenMetadata doc version metadata) =
      (version.map Value.string).or (Fields.get? "resourceVersion" metadata) := by
  have hpinned : Fields.get? "resourceVersion" (pinnedMetadata doc metadata) =
      Fields.get? "resourceVersion" metadata := by
    unfold pinnedMetadata
    split
    · exact Fields.get?_put_of_ne (by decide) _ _
    · rfl
  unfold writtenMetadata
  cases version with
  | none => exact hpinned
  | some version => exact Fields.get?_put_self _ _ _

/-- The namespace that is written is that of the object's key, and where it has none, the one of the
document. -/
theorem get?_namespace_writtenMetadata (doc : Document) (version : Option String)
    (metadata : List (String × Value)) :
    Fields.get? "namespace" (writtenMetadata doc version metadata) =
      ((ResourceKey.ofDocument doc).inNamespace?.map Value.string).or
        (Fields.get? "namespace" metadata) := by
  have hpinned : Fields.get? "namespace" (pinnedMetadata doc metadata) =
      ((ResourceKey.ofDocument doc).inNamespace?.map Value.string).or
        (Fields.get? "namespace" metadata) := by
    unfold pinnedMetadata
    cases (ResourceKey.ofDocument doc).inNamespace? with
    | some ns => exact Fields.get?_put_self _ _ _
    | none => rfl
  unfold writtenMetadata
  cases version with
  | none => exact hpinned
  | some version => exact (Fields.get?_put_of_ne (by decide) _ _).trans hpinned

/-- All other fields of the metadata are those of the document. -/
theorem get?_writtenMetadata_of_ne (doc : Document) (version : Option String)
    (metadata : List (String × Value)) {key : String} (hnamespace : "namespace" ≠ key)
    (hversion : "resourceVersion" ≠ key) :
    Fields.get? key (writtenMetadata doc version metadata) = Fields.get? key metadata := by
  have hpinned : Fields.get? key (pinnedMetadata doc metadata) = Fields.get? key metadata := by
    unfold pinnedMetadata
    split
    · exact Fields.get?_put_of_ne hnamespace _ _
    · rfl
  unfold writtenMetadata
  split
  · exact (Fields.get?_put_of_ne hversion _ _).trans hpinned
  · exact hpinned

theorem ordered_pinnedMetadata (doc : Document) {metadata : List (String × Value)}
    (h : Fields.Ordered metadata) : Fields.Ordered (pinnedMetadata doc metadata) := by
  unfold pinnedMetadata
  split
  · exact h.put _ _
  · exact h

/-! ### What is written -/

variable {doc : Document}

/-- The live object, if there is one, has a version. -/
def LiveVersion (live : Option Value) (version : String) : Prop :=
  ∃ object metadata, live = some object ∧ object.get? "metadata" = some (.object metadata) ∧
    Fields.get? "resourceVersion" metadata = some (.string version)

/-- The version that is carried over is the one in the metadata of the live object. -/
theorem bind_resourceVersion?_eq_some_iff {live : Option Value} {version : String} :
    live.bind resourceVersion? = some version ↔ LiveVersion live version := by
  rw [Option.bind_eq_some_iff]
  constructor
  · rintro ⟨object, rfl, h⟩
    obtain ⟨text, hfield, htext⟩ := Option.bind_eq_some_iff.mp h
    obtain ⟨metadata, hmetadata, hget⟩ := Option.bind_eq_some_iff.mp hfield
    rw [Value.text?_eq_some_iff.mp htext] at hget
    cases metadata with
    | object metadata => exact ⟨object, metadata, rfl, hmetadata, hget⟩
    | _ => cases hget
  · rintro ⟨object, metadata, rfl, hmetadata, hget⟩
    refine ⟨object, rfl, ?_⟩
    rw [resourceVersion?, hmetadata, Option.bind_some, Value.get?_object, hget]
    rfl

/-- What a cluster holds after a document was deployed over a live object: the document itself,
with the namespace in which it lies and the version of the live object. -/
structure Upserted (doc : Document) (live : Option Value) (stored : Value) : Prop where
  /-- Outside of the metadata it holds what the document holds. -/
  outside : ∀ key, key ≠ "metadata" → stored.get? key = doc.value.get? key
  /-- The metadata holds what the metadata of the document holds, but for two fields. -/
  metadata : ∃ given kept, doc.value.get? "metadata" = some (.object given) ∧
    stored.get? "metadata" = some (.object kept) ∧
    Fields.get? "namespace" kept = some (.string doc.effectiveNamespace) ∧
    (∀ version, LiveVersion live version →
      Fields.get? "resourceVersion" kept = some (.string version)) ∧
    ((∀ version, ¬ LiveVersion live version) →
      Fields.get? "resourceVersion" kept = Fields.get? "resourceVersion" given) ∧
    ∀ key, key ≠ "namespace" → key ≠ "resourceVersion" →
      Fields.get? key kept = Fields.get? key given

/-- What is written for a document in a namespace is the document with its namespace and the version
of the live object. -/
theorem written_upserted (h : Deployable doc) (hscope : doc.kind.isClusterScoped = false)
    (live : Option Value) : Upserted doc live (written doc (live.bind resourceVersion?)) := by
  obtain ⟨fields, metadata, hfields, -, hmetadata, hwritten⟩ := h.written_eq
  have hnamespace : (ResourceKey.ofDocument doc).inNamespace? = some doc.effectiveNamespace := by
    simp [ResourceKey.ofDocument, hscope]
  rw [hwritten]
  have hversion := get?_resourceVersion_writtenMetadata doc (live.bind resourceVersion?) metadata
  refine ⟨fun key hkey => ?_, metadata, _, ?_, Fields.get?_put_self _ _ _, ?_, ?_, ?_, ?_⟩
  · rw [hfields, Value.get?_object, Value.get?_object, Fields.get?_put_of_ne (Ne.symm hkey)]
  · rw [hfields, Value.get?_object, hmetadata]
  · rw [get?_namespace_writtenMetadata, hnamespace]
    rfl
  · intro version hlive
    rw [hversion, bind_resourceVersion?_eq_some_iff.mpr hlive]
    rfl
  · intro hnone
    have habsent : live.bind resourceVersion? = none :=
      Option.eq_none_iff_forall_ne_some.mpr fun version hlive =>
        hnone version (bind_resourceVersion?_eq_some_iff.mp hlive)
    rw [hversion, habsent]
    rfl
  · exact fun key hns hrv => get?_writtenMetadata_of_ne _ _ _ (Ne.symm hns) (Ne.symm hrv)

/-- The version that a document brings with it. -/
def ownVersion (doc : Document) : Option String :=
  doc.metadataText? "resourceVersion"

/-- The written object has the version of the live one, or else the one of the document. -/
theorem resourceVersion?_written (h : Deployable doc) (version : Option String) :
    resourceVersion? (written doc version) = version.or (ownVersion doc) := by
  obtain ⟨fields, metadata, hfields, -, hmetadata, hwritten⟩ := h.written_eq
  have hget : doc.value.get? "metadata" = some (.object metadata) := by
    rw [hfields, Value.get?_object, hmetadata]
  rw [hwritten, resourceVersion?, Value.get?_object, Fields.get?_put_self, Option.bind_some,
    Value.get?_object, get?_resourceVersion_writtenMetadata, ownVersion,
    Document.metadataText?_of_metadata hget]
  cases version <;> rfl

/-- Writing the version that a document brings with it anyway changes nothing. -/
theorem written_or_ownVersion (h : Deployable doc) (version : Option String) :
    written doc (version.or (ownVersion doc)) = written doc version := by
  cases version with
  | some version => rfl
  | none =>
      obtain ⟨fields, metadata, hfields, hcanonical, hmetadata, hwritten⟩ := h.written_eq
      cases hown : ownVersion doc with
      | none => rfl
      | some own =>
          have hget : doc.value.get? "metadata" = some (.object metadata) := by
            rw [hfields, Value.get?_object, hmetadata]
          rw [ownVersion, Document.metadataText?_of_metadata hget] at hown
          -- the version is stored already, under the same name
          have hsame : writtenMetadata doc (some own) metadata =
              writtenMetadata doc none metadata := by
            refine Fields.put_eq_self (ordered_pinnedMetadata doc hcanonical.1) ?_
            obtain ⟨v, hv, htext⟩ := Option.bind_eq_some_iff.mp hown
            have hpinned := get?_resourceVersion_writtenMetadata doc none metadata
            rw [hv, Value.text?_eq_some_iff.mp htext] at hpinned
            exact hpinned
          rw [Option.none_or, hwritten, hwritten, hsame]

/-! ### Where it is written -/

theorem effectiveNamespace_ne (doc : Document) : doc.effectiveNamespace ≠ "" := by
  unfold Document.effectiveNamespace Document.namespace?
  cases h : (doc.metadataText? "namespace").filter fun text => text ≠ "" with
  | none => decide
  | some ns =>
      have hns := (Option.filter_eq_some_iff.mp h).2
      simpa using hns

theorem kind_ofValue_written (h : Deployable doc) (version : Option String) :
    (Document.ofValue (written doc version)).kind = doc.kind := by
  obtain ⟨fields, metadata, hfields, -, -, hwritten⟩ := h.written_eq
  rw [h.isRead.kind_eq, hfields, hwritten, Document.ofValue, Document.ofValue, Document.textAt,
    Document.textAt, Value.get?_object, Value.get?_object, Fields.get?_put_of_ne (by decide)]

/-- Read again, what was written has the name of the document, and the namespace that was looked up.
-/
theorem metadataText?_ofValue_written (h : Deployable doc) (version : Option String) :
    (Document.ofValue (written doc version)).name = doc.name ∧
      ∀ ns, (ResourceKey.ofDocument doc).inNamespace? = some ns →
        (Document.ofValue (written doc version)).metadataText? "namespace" = some ns := by
  obtain ⟨fields, metadata, hfields, -, hmetadata, hwritten⟩ := h.written_eq
  have hget : doc.value.get? "metadata" = some (.object metadata) := by
    rw [hfields, Value.get?_object, hmetadata]
  have hput : (Document.ofValue (written doc version)).value.get? "metadata" =
      some (.object (writtenMetadata doc version metadata)) := by
    rw [Document.ofValue, hwritten, Value.get?_object, Fields.get?_put_self]
  constructor
  · rw [Document.name, Document.name, Document.metadataText?_of_metadata hput,
      Document.metadataText?_of_metadata hget,
      get?_writtenMetadata_of_ne _ _ _ (by decide) (by decide)]
  · intro ns hns
    rw [Document.metadataText?_of_metadata hput, get?_namespace_writtenMetadata, hns]
    rfl

/-- What is written for a document goes to the object of its key. -/
theorem target_written (h : Deployable doc) (version : Option String) (c : Cluster) :
    c.target (written doc version) = (ResourceKey.ofDocument doc).object := by
  have hkind := kind_ofValue_written h version
  obtain ⟨hname, hns⟩ := metadataText?_ofValue_written h version
  unfold Cluster.target
  cases hscope : doc.kind.isClusterScoped with
  | true => simp [ResourceKey.ofDocument, ResourceKey.object, hkind, hname, hscope]
  | false =>
      -- the namespace is written into the object, so the one of the client is not asked for
      have htext := hns doc.effectiveNamespace (by simp [ResourceKey.ofDocument, hscope])
      have hnamespace : (Document.ofValue (written doc version)).namespace? =
          some doc.effectiveNamespace := by
        rw [Document.namespace?, htext, Option.filter_some]
        simp [effectiveNamespace_ne]
      have heffective : (Document.ofValue (written doc version)).effectiveNamespace =
          doc.effectiveNamespace := by
        rw [Document.effectiveNamespace, hnamespace, Option.getD_some]
      simp [ResourceKey.ofDocument, ResourceKey.object, hkind, hname, hscope, hnamespace,
        heffective]

end ClusterTuning.Deployment
