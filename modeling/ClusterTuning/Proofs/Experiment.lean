import ClusterTuning.Experiment
import ClusterTuning.Proofs.Manifest
import ClusterTuning.Proofs.Records

/-!
# ClusterTuning.Proofs.Experiment

**What reading an experiment guarantees.**

An experiment keeps the fields that it does not know and writes them behind those that it knows.
As the ones that it keeps have other names, the document that it writes has its kind and its
name. This is what reading guarantees (`unshadowed_of_decode`); a record put together by hand could
keep a second `kind`, which would win.

An experiment that was read from a document has the kind of the document (`kind_of_decode`), and its
parameters have numbers that fit and baselines that are values (`isRead_of_mem_parameters`).
-/

namespace ClusterTuning

/-! ### The document of an experiment -/

theorem ObjectMeta.name_not_mem_of_decode {σ : Type} [Source σ] {v : σ} {m : ObjectMeta}
    (h : decode v = .ok m) : "name" ∉ Fields.names m.other := by
  obtain ⟨entries, record, others, -, hread, rfl, hothers⟩ := Decode.openRecord_eq_ok h
  obtain ⟨_, ns, hns, -, rfl⟩ := Decode.read_field_eq_done_iff.mp hread
  obtain ⟨_, name, hname, -, rfl⟩ := Decode.read_field_eq_done_iff.mp hns
  cases hname
  exact fun hmem => hothers _ hmem (by simp [Decode.Schema.withDefault, Decode.Schema.field])

namespace Experiment

/-- No field that the experiment keeps has the name of one that says what it is. -/
structure Unshadowed (e : Experiment) : Prop where
  /-- There is no second kind. -/
  kind : "kind" ∉ Fields.names e.other
  /-- There is no second metadata. -/
  metadata : "metadata" ∉ Fields.names e.other
  /-- There is no second name. -/
  name : "name" ∉ Fields.names e.metadata.other

/-- An experiment that was read is put together from the fields that were there. -/
theorem fits_of_decode {σ : Type} [Source σ] {v : σ} {e : Experiment} (h : decode v = .ok e) :
    ∃ names entries, Source.entries (Decode.recordName "Experiment") names v = .ok entries ∧
      Decode.Fits Source.text none (Fields.get? "kind" entries) e.kind ∧
      Decode.Fits ObjectMeta.decode (some {}) (Fields.get? "metadata" entries) e.metadata ∧
      Decode.Fits ExperimentSpec.decode (some {}) (Fields.get? "spec" entries) e.spec ∧
      "kind" ∉ Fields.names e.other ∧ "metadata" ∉ Fields.names e.other := by
  obtain ⟨entries, record, others, hentries, hread, rfl, hothers⟩ := Decode.openRecord_eq_ok h
  obtain ⟨_, spec, hspec, hspec', rfl⟩ := Decode.read_field_eq_done_iff.mp hread
  obtain ⟨_, metadata, hmeta, hmeta', rfl⟩ := Decode.read_field_eq_done_iff.mp hspec
  obtain ⟨_, kind, hkind, hkind', rfl⟩ := Decode.read_field_eq_done_iff.mp hmeta
  obtain ⟨_, apiVersion, hversion, -, rfl⟩ := Decode.read_field_eq_done_iff.mp hkind
  cases hversion
  refine ⟨_, entries, hentries, hkind', hmeta', hspec', fun hmem => ?_, fun hmem => ?_⟩
  · exact hothers _ hmem (by simp [Decode.Schema.withDefault, Decode.Schema.required,
      Decode.Schema.field])
  · exact hothers _ hmem (by simp [Decode.Schema.withDefault, Decode.Schema.required,
      Decode.Schema.field])

/-- An experiment that was read keeps no further field under a name of its own. -/
theorem unshadowed_of_decode {σ : Type} [Source σ] {v : σ} {e : Experiment}
    (h : decode v = .ok e) : e.Unshadowed := by
  obtain ⟨_, entries, -, -, hmetadata, -, hkind, hmeta⟩ := fits_of_decode h
  refine ⟨hkind, hmeta, ?_⟩
  rcases Decode.fits_iff.mp hmetadata with ⟨-, hdefault⟩ | ⟨w, -, hw⟩
  · rw [← Option.some.inj hdefault]
    exact List.not_mem_nil
  · exact ObjectMeta.name_not_mem_of_decode hw

/-- The kind of the document is the one of the experiment. -/
theorem Unshadowed.kind_ofValue {e : Experiment} (h : e.Unshadowed) :
    (Document.ofValue e.toValue).kind = ResourceKind.ofName e.kind := by
  have hget : e.toValue.get? "kind" = some (.string e.kind) := by
    simp [toValue, fields, Encode.get?_canonical_of_not_mem h.kind]
  rw [Document.ofValue, Document.textAt, hget]
  rfl

theorem Unshadowed.get?_metadata {e : Experiment} (h : e.Unshadowed) :
    e.toValue.get? "metadata" = some e.metadata.encode.canonical := by
  simp [toValue, fields, Encode.get?_canonical_of_not_mem h.metadata]

/-- The name of the document is the one of the experiment. -/
theorem Unshadowed.name_ofValue {e : Experiment} (h : e.Unshadowed) :
    (Document.ofValue e.toValue).name = e.metadata.name := by
  have hname : e.metadata.encode.canonical.get? "name" = some (.string e.metadata.name) := by
    simp [ObjectMeta.encode, ObjectMeta.fields, Encode.get?_canonical_of_not_mem h.name]
  rw [Document.name, Document.metadataText?, Document.ofValue, h.get?_metadata, Option.bind_some,
    hname]
  rfl

end Experiment

/-! ### What was read from a value -/

/-- What holds of a parameter that was read: its numbers fit, and its baseline is a value. -/
structure Parameter.IsRead (p : Parameter) : Prop where
  /-- The least value fits. -/
  min : ∀ n, p.min = some n → IntType.signed.holds n = true
  /-- The greatest value fits. -/
  max : ∀ n, p.max = some n → IntType.signed.holds n = true
  /-- The baseline is something, in canonical form. -/
  baseline : ∀ v, p.baseline = some v → v.isNull = false ∧ v.IsCanonical

/-- What a parameter was read with is canonical and fits its types. -/
theorem Parameter.isRead_of_decode {v : Value} (hv : v.IsCanonical) {p : Parameter}
    (h : decode v = .ok p) : p.IsRead := by
  obtain ⟨entries, record, others, hentries, hread, rfl, -⟩ := Decode.openRecord_eq_ok h
  cases Decode.eq_object_of_entries hentries
  obtain ⟨_, values, hvalues, -, rfl⟩ := Decode.read_field_eq_done_iff.mp hread
  obtain ⟨_, baseline, hbaseline, hbaseline', rfl⟩ := Decode.read_field_eq_done_iff.mp hvalues
  obtain ⟨_, max, hmax, hmax', rfl⟩ := Decode.read_field_eq_done_iff.mp hbaseline
  obtain ⟨_, min, hmin, hmin', rfl⟩ := Decode.read_field_eq_done_iff.mp hmax
  obtain ⟨_, name, hname, -, rfl⟩ := Decode.read_field_eq_done_iff.mp hmin
  cases hname
  refine ⟨?_, ?_, ?_⟩
  · rintro n rfl
    obtain ⟨w, -, -, hw⟩ := Decode.exists_of_fits_some hmin'
    exact Decode.holds_of_decodeInteger hw
  · rintro n rfl
    obtain ⟨w, -, -, hw⟩ := Decode.exists_of_fits_some hmax'
    exact Decode.holds_of_decodeInteger hw
  · rintro w rfl
    obtain ⟨w', hcontent, hnull, hw⟩ := Decode.exists_of_fits_some hbaseline'
    cases hw
    exact ⟨hnull, hv.2.of_get? hcontent⟩

theorem ExperimentSpec.isRead_of_decode {v : Value} (hv : v.IsCanonical) {s : ExperimentSpec}
    (h : decode v = .ok s) : ∀ p ∈ s.parameters, p.IsRead := by
  obtain ⟨entries, record, others, hentries, hread, rfl, -⟩ := Decode.openRecord_eq_ok h
  cases Decode.eq_object_of_entries hentries
  obtain ⟨_, patches, hpatches, -, rfl⟩ := Decode.read_field_eq_done_iff.mp hread
  obtain ⟨_, metrics, hmetrics, -, rfl⟩ := Decode.read_field_eq_done_iff.mp hpatches
  obtain ⟨_, parameters, hparameters, hfits, rfl⟩ := Decode.read_field_eq_done_iff.mp hmetrics
  cases hparameters
  intro p hp
  rcases Decode.fits_iff.mp hfits with ⟨-, hdefault⟩ | ⟨w, hcontent, hw⟩
  · cases hdefault
    cases hp
  · obtain ⟨items, rfl, hitems⟩ := Decode.exists_mem_of_list hw
    obtain ⟨item, hitem, hdecode⟩ := hitems p hp
    have hcanonical := Value.itemsCanonical_iff.mp (hv.2.of_get? hcontent)
    exact Parameter.isRead_of_decode (hcanonical item hitem) hdecode

namespace Experiment

theorem get?_kind_of_decode {v : Value} {e : Experiment} (h : decode v = .ok e) :
    v.get? "kind" = some (.string e.kind) := by
  obtain ⟨_, entries, hentries, hkind, -⟩ := fits_of_decode h
  cases Decode.eq_object_of_entries hentries
  rcases Decode.fits_iff.mp hkind with ⟨-, hdefault⟩ | ⟨w, hcontent, hw⟩
  · cases hdefault
  · cases w with
    | string s =>
        cases hw
        exact hcontent
    | _ => cases hw

theorem isRead_of_mem_parameters {v : Value} (hv : v.IsCanonical) {e : Experiment}
    (h : decode v = .ok e) : ∀ p ∈ e.spec.parameters, p.IsRead := by
  obtain ⟨_, entries, hentries, -, -, hspec, -⟩ := fits_of_decode h
  cases Decode.eq_object_of_entries hentries
  rcases Decode.fits_iff.mp hspec with ⟨-, hdefault⟩ | ⟨w, hcontent, hw⟩
  · rw [← Option.some.inj hdefault]
    nofun
  · exact ExperimentSpec.isRead_of_decode (hv.2.of_get? hcontent) hw

/-- An experiment that was read from a document of experiments is of that kind. -/
theorem kind_of_decode {doc : Document} (hdoc : doc.IsRead) (hkind : doc.kind = .experiment)
    {e : Experiment} (h : decode doc.value = .ok e) : e.kind = "Experiment" := by
  have htext := hdoc.textAt_kind
  rw [Document.textAt, get?_kind_of_decode h, hkind] at htext
  exact htext

end Experiment

end ClusterTuning
