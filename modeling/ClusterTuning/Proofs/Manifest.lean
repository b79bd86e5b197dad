import ClusterTuning.Manifest.Extract
import ClusterTuning.Manifest.Reader
import ClusterTuning.Proofs.Canonical
import Mathlib.Data.List.Perm.Basic

/-!
# ClusterTuning.Proofs.Manifest

**What holds of every document that was read.**

A document that was read is a canonical object, and its kind is the one that its content
gives. Nothing else is ever known of a document, so this is where every property of parsed
manifests starts.

## Main statement

* `ManifestSet.isRead_of_extendAll`: the documents of any sources.
-/

namespace ClusterTuning

/-! ### YAML values are canonical -/

namespace Yaml

theorem isCanonical_of_spelled {text : List Char} {spelled : Spelled} {v : Value}
    (h : spelled.value? text = some v) : v.IsCanonical := by
  cases spelled with
  | wide => cases h
  | _ =>
      cases h
      exact trivial

theorem isCanonical_of_scalarValue? {tag : Option (List Char)} {text : List Char} {style : Style}
    {v : Value} (h : scalarValue? tag text style = some v) : v.IsCanonical := by
  unfold scalarValue? at h
  split at h
  · split at h
    · exact isCanonical_of_spelled h
    · cases h
      exact trivial
  · split at h
    · cases h
    split at h
    · obtain ⟨_, _, rfl⟩ := Option.map_eq_some_iff.mp h
      exact trivial
    split at h
    · obtain ⟨_, _, hspelled⟩ := Option.bind_eq_some_iff.mp h
      exact isCanonical_of_spelled hspelled
    split at h
    · obtain ⟨_, _, hspelled⟩ := Option.bind_eq_some_iff.mp h
      exact isCanonical_of_spelled hspelled
    split at h
    · split at h
      · cases h
        exact trivial
      · cases h
    · cases h
      exact trivial

mutual

/-- The value of a tree is canonical, since the fields of a mapping are put in order. -/
theorem isCanonical_of_valueOf? {strict : Bool} :
    ∀ {tree : Tree} {v : Value}, valueOf? strict tree = some v → v.IsCanonical
  | .scalar _ tag text style, v, h => by
      rw [valueOf?] at h
      exact isCanonical_of_scalarValue? h
  | .sequence _ tag items, v, h => by
      rw [valueOf?] at h
      split at h
      · cases h
      · obtain ⟨vs, hitems, rfl⟩ := Option.map_eq_some_iff.mp h
        exact itemsCanonical_of_valuesOf? hitems
  | .mapping _ tag entries, v, h => by
      rw [valueOf?] at h
      split at h
      · cases h
      · obtain ⟨fields, hentries, rfl⟩ := Option.map_eq_some_iff.mp h
        exact Value.isCanonical_object_ofList (fieldsCanonical_of_fieldsOf? hentries)
  | .alias r, _, _ => nomatch r

theorem itemsCanonical_of_valuesOf? {strict : Bool} : ∀ {items : List Tree} {vs : List Value},
    valuesOf? strict items = some vs → Value.ItemsCanonical vs
  | [], vs, h => by
      rw [valuesOf?] at h
      cases h
      exact trivial
  | item :: rest, vs, h => by
      rw [valuesOf?] at h
      split at h
      · cases h
      · rename_i v hv
        obtain ⟨more, hrest, rfl⟩ := Option.map_eq_some_iff.mp h
        exact ⟨isCanonical_of_valueOf? hv, itemsCanonical_of_valuesOf? hrest⟩

theorem fieldsCanonical_of_fieldsOf? {strict : Bool} :
    ∀ {entries : List (Tree × Tree)} {fields : List (String × Value)},
      fieldsOf? strict entries = some fields → Value.FieldsCanonical fields
  | [], fields, h => by
      rw [fieldsOf?] at h
      cases h
      exact trivial
  | (k, node) :: rest, fields, h => by
      rw [fieldsOf?] at h
      split at h
      · rename_i key v _ hv
        obtain ⟨more, hrest, rfl⟩ := Option.map_eq_some_iff.mp h
        exact ⟨isCanonical_of_valueOf? hv, fieldsCanonical_of_fieldsOf? hrest⟩
      · cases h

end

theorem isCanonical_of_mem_readAll {text : List Char} {v : Value}
    (h : some v ∈ readAll text) : v.IsCanonical := by
  obtain ⟨root, _, hroot⟩ := List.mem_map.mp h
  obtain ⟨node, _, hnode⟩ := Option.bind_eq_some_iff.mp hroot
  obtain ⟨tree, _, htree⟩ := Option.bind_eq_some_iff.mp hnode
  exact isCanonical_of_valueOf? htree

end Yaml

/-! ### Documents that were read -/

/-- The document is a canonical object, of the kind that the object gives. -/
structure Document.IsRead (doc : Document) : Prop where
  /-- The content is an object. -/
  isObject : doc.value.isObject = true
  /-- The content is canonical. -/
  isCanonical : doc.value.IsCanonical
  /-- The kind is the one of the content. -/
  kind_eq : doc.kind = (Document.ofValue doc.value).kind

theorem ResourceKind.name_ofName (name : String) : (ofName name).name = name := by
  rw [ofName]
  cases h : known.find? fun kind => kind.name = name with
  | none => rfl
  | some kind =>
      have hname := List.find?_some h
      simpa using hname

namespace Document

theorem IsRead.exists_fields {doc : Document} (h : doc.IsRead) :
    ∃ fields, doc.value = .object fields := by
  cases hv : doc.value with
  | object fields => exact ⟨fields, rfl⟩
  | _ =>
      have hobject := h.isObject
      rw [hv] at hobject
      cases hobject

theorem IsRead.textAt_kind {doc : Document} (h : doc.IsRead) :
    textAt "kind" doc.value = doc.kind.name := by
  rw [h.kind_eq, ofValue, ResourceKind.name_ofName]

/-- Documents that were read are of one kind when their kinds have one name. -/
theorem IsRead.kind_eq_of_name_eq {a b : Document} (ha : a.IsRead) (hb : b.IsRead)
    (h : a.kind.name = b.kind.name) : a.kind = b.kind := by
  rw [ha.kind_eq, hb.kind_eq, ofValue, ofValue, ha.textAt_kind, hb.textAt_kind, h]

theorem metadataText?_of_metadata {doc : Document} {metadata : List (String × Value)}
    (h : doc.value.get? "metadata" = some (.object metadata)) (field : String) :
    doc.metadataText? field = (Fields.get? field metadata).bind Value.text? := by
  rw [metadataText?, h, Option.bind_some, Value.get?_object]

/-- A document with a name has metadata. -/
theorem exists_metadata {doc : Document} (h : doc.name ≠ "") :
    ∃ metadata, doc.value.get? "metadata" = some (.object metadata) := by
  cases hm : doc.value.get? "metadata" with
  | none => exact absurd (by rw [name, metadataText?, hm]; rfl) h
  | some v =>
      cases v with
      | object metadata => exact ⟨metadata, rfl⟩
      | _ => exact absurd (by rw [name, metadataText?, hm]; rfl) h

end Document

namespace ManifestSet

theorem isRead_of_collect {source : String} {values : List (Option Value)}
    (hvalues : ∀ v, some v ∈ values → v.IsCanonical) {index : Nat} {set : ManifestSet}
    (h : collect source index values = .ok set) : ∀ doc ∈ set, doc.IsRead := by
  induction values generalizing index set with
  | nil =>
      cases h
      nofun
  | cons value rest ih =>
      have hrest : ∀ v, some v ∈ rest → v.IsCanonical := fun v hv =>
        hvalues v (List.mem_cons_of_mem _ hv)
      cases value with
      | none => cases h
      | some v =>
          cases v with
          | null => exact ih hrest h
          | object fields =>
              rw [collect] at h
              split at h
              · cases h
              · rename_i docs hdocs
                cases h
                intro doc hdoc
                rcases List.mem_cons.mp hdoc with rfl | hdoc
                · exact ⟨rfl, hvalues _ List.mem_cons_self, rfl⟩
                · exact ih hrest hdocs doc hdoc
          | _ => cases h

theorem isRead_of_ofBytes {source : String} {data : Bytes} {set : ManifestSet}
    (h : ofBytes source data = .ok set) : ∀ doc ∈ set, doc.IsRead := by
  rw [ofBytes] at h
  split at h
  · cases h
  · exact isRead_of_collect (fun _ hv => Yaml.isCanonical_of_mem_readAll hv) h

theorem isRead_of_extendAll_of_isRead {sources : List (String × Bytes)} {set extended : ManifestSet}
    (hset : ∀ doc ∈ set, doc.IsRead) (h : extendAll set sources = .ok extended) :
    ∀ doc ∈ extended, doc.IsRead := by
  induction sources generalizing set with
  | nil =>
      cases h
      exact hset
  | cons entry rest ih =>
      obtain ⟨source, data⟩ := entry
      rw [extendAll] at h
      split at h
      · cases h
      · rename_i more hmore
        obtain ⟨docs, hdocs, rfl⟩ := map_eq_ok_iff.mp hmore
        refine ih (fun doc hdoc => ?_) h
        exact (List.mem_append.mp hdoc).elim (hset doc) (isRead_of_ofBytes hdocs doc)

/-- Every document of every parsed source is a canonical object of the kind it gives. -/
theorem isRead_of_extendAll {sources : List (String × Bytes)} {set : ManifestSet}
    (h : extendAll [] sources = .ok set) : ∀ doc ∈ set, doc.IsRead :=
  isRead_of_extendAll_of_isRead (fun _ hdoc => absurd hdoc List.not_mem_nil) h

/-! ### The single document of a kind -/

/-- The single document of a kind that is taken is one of the set, and it was decoded. -/
theorem exists_of_extractSingle {α : Type} {kind : ResourceKind}
    {decode : Value → Decoded α} {set : ManifestSet} {a : α}
    (h : set.extractSingle kind decode = .ok (some a)) :
    ∃ doc ∈ set, doc.kind = kind ∧ decode doc.value = .ok a := by
  unfold extractSingle at h
  split at h
  · cases h
  · rename_i doc hdoc
    have hmem : doc ∈ set.ofKind kind := hdoc ▸ List.mem_cons_self
    obtain ⟨hset, hkind⟩ := List.mem_filter.mp hmem
    split at h
    · rename_i hdecode
      cases h
      exact ⟨doc, hset, of_decide_eq_true hkind, hdecode⟩
    · cases h
  · cases h

/-- Which document is the single one of its kind does not depend on the order. -/
theorem extractSingle_of_perm {set other : ManifestSet} (h : set.Perm other) {α : Type}
    (kind : ResourceKind) (decode : Value → Decoded α) :
    other.extractSingle kind decode = set.extractSingle kind decode := by
  have hkind : (set.ofKind kind).Perm (other.ofKind kind) := h.filter _
  unfold extractSingle
  cases hset : set.ofKind kind with
  | nil =>
      rw [hset, List.nil_perm] at hkind
      rw [hkind]
  | cons doc rest =>
      cases rest with
      | nil =>
          rw [hset, List.singleton_perm] at hkind
          rw [hkind]
      | cons doc' rest =>
          -- two documents of the kind are two in any order
          have hlength := hkind.length_eq
          rw [hset] at hlength
          match hother : other.ofKind kind with
          | [] | [_] => simp [hother] at hlength
          | _ :: _ :: _ => rfl

end ManifestSet

end ClusterTuning
