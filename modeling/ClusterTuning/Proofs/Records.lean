import ClusterTuning.Data.Decode
import ClusterTuning.Data.Encode
import ClusterTuning.Proofs.Canonical

/-!
# ClusterTuning.Proofs.Records

**Records that are read, and records that are read from what was written.**

A record is read when each of its fields fits, that is, holds something that can be decoded or is
absent and has a default (`Fits`). `read_field_eq_done_iff` says so for one field more, and is used
in both directions: to take apart a record that was read, and to read one from its own fields.

What is written is a list of fields, of which the later ones win. `get?_canonical_append` and the
lemma of each way of writing a field tell what the written object holds under a name.
-/

namespace ClusterTuning

/-! ### What a written object holds -/

namespace Encode

open Value

@[simp] theorem get?_canonical_append (key : String) (front back : List (String × Value)) :
    (object (front ++ back)).canonical.get? key =
      ((object back).canonical.get? key).or ((object front).canonical.get? key) := by
  simp only [canonical, canonicalFields_append, get?_object, Fields.get?_ofList_append]

@[simp] theorem get?_canonical_field (key name : String) (v : Value) :
    (object (field name v)).canonical.get? key = if name = key then some v.canonical else none :=
  rfl

@[simp] theorem get?_canonical_optional {α : Type} (key name : String) (encode : α → Value)
    (o : Option α) : (object (optional name encode o)).canonical.get? key =
      if name = key then o.map (fun a => (encode a).canonical) else none := by
  cases o with
  | none => exact (ite_self none).symm
  | some a => rfl

@[simp] theorem get?_canonical_nonEmptyText (key name text : String) :
    (object (nonEmptyText name text)).canonical.get? key =
      if name = key ∧ text ≠ "" then some (.string text) else none := by
  by_cases htext : text = "" <;>
    simp [nonEmptyText, htext, canonical, canonicalFields, Fields.ofList, Fields.put, Fields.get?]

@[simp] theorem get?_canonical_nonEmptyList {α : Type} (key name : String) (encode : α → Value)
    (items : List α) : (object (nonEmptyList name encode items)).canonical.get? key =
      if name = key ∧ items ≠ [] then some (list encode items).canonical else none := by
  cases items with
  | nil => simp [nonEmptyList, canonical, canonicalFields, Fields.ofList]
  | cons a rest =>
      simp [nonEmptyList, canonical, canonicalFields, Fields.ofList, Fields.put, Fields.get?]

theorem isSome_get?_canonical_iff {key : String} {fields : List (String × Value)} :
    ((object fields).canonical.get? key).isSome = true ↔ key ∈ Fields.names fields := by
  rw [canonical, get?_object, Fields.isSome_get?_iff, ← names_canonicalFields fields]
  exact Fields.mem_names_putAll_iff.trans (or_iff_right List.not_mem_nil)

theorem get?_canonical_of_not_mem {key : String} {fields : List (String × Value)}
    (h : key ∉ Fields.names fields) : (object fields).canonical.get? key = none := by
  rw [← isSome_get?_canonical_iff, Option.not_isSome_iff_eq_none] at h
  exact h

end Encode

namespace Decode

variable {σ α β : Type}

/-! ### Fields -/

/-- What reading a field comes to: its content, or its default where it has none. -/
def Fits (decode : σ → Decoded α) (absent : Option α) : Option σ → α → Prop
  | none, a => absent = some a
  | some v, a => decode v = .ok a

theorem fits_iff {decode : σ → Decoded α} {absent : Option α} {content : Option σ} {a : α} :
    Fits decode absent content a ↔
      (content = none ∧ absent = some a) ∨ ∃ v, content = some v ∧ decode v = .ok a := by
  cases content <;> simp [Fits]

theorem andThen_eq_done_iff {r : Reading (α → β)} {s : Reading α} {b : β} :
    r.andThen s = .done b ↔ ∃ f a, r = .done f ∧ s = .done a ∧ f a = b := by
  cases r <;> cases s <;> simp [Reading.andThen]

theorem conclude_eq_ok_iff {order : List String} {missing : String → Mismatch} {r : Reading α}
    {a : α} : r.conclude order missing = .ok a ↔ r = .done a := by
  cases r <;> simp [Reading.conclude]

/-- A field more is read when it fits. -/
theorem read_field_eq_done_iff {s : Schema σ (α → β)} {name : String} {decode : σ → Decoded α}
    {absent : Option α} {content : String → Option σ} {b : β} :
    (s.field name decode absent).read content = .done b ↔
      ∃ f a, s.read content = .done f ∧ Fits decode absent (content name) a ∧ f a = b := by
  refine andThen_eq_done_iff.trans (exists_congr fun f => exists_congr fun a =>
    and_congr_right fun _ => and_congr_left fun _ => ?_)
  cases content name with
  | none => cases absent <;> simp [Fits]
  | some v => cases hv : decode v <;> simp [Fits, hv]

theorem read_field {s : Schema σ (α → β)} {name : String} {decode : σ → Decoded α}
    {absent : Option α} {content : String → Option σ} {f : α → β} {a : α}
    (hread : s.read content = .done f) (hfits : Fits decode absent (content name) a) :
    (s.field name decode absent).read content = .done (f a) :=
  read_field_eq_done_iff.mpr ⟨f, a, hread, hfits, rfl⟩

/-- A field that does not fit is a fault. -/
theorem read_field_of_error {s : Schema σ (α → β)} {name : String} {decode : σ → Decoded α}
    {absent : Option α} {content : String → Option σ} {f : α → β} {v : σ} {e : Mismatch}
    (hread : s.read content = .done f) (hcontent : content name = some v)
    (hdecode : decode v = .error e) :
    (s.field name decode absent).read content = .wrong [(name, e)] := by
  simp only [Schema.field, hread, hcontent, hdecode, Reading.andThen]

/-- A field that fits adds no fault. -/
theorem read_field_of_wrong {s : Schema σ (α → β)} {name : String} {decode : σ → Decoded α}
    {absent : Option α} {content : String → Option σ} {faults : List (String × Mismatch)} {a : α}
    (hread : s.read content = .wrong faults) (hfits : Fits decode absent (content name) a) :
    (s.field name decode absent).read content = .wrong faults := by
  rcases fits_iff.mp hfits with ⟨hcontent, rfl⟩ | ⟨v, hcontent, hdecode⟩
  · simp only [Schema.field, hread, hcontent, Reading.andThen]
  · simp only [Schema.field, hread, hcontent, hdecode, Reading.andThen]

theorem firstFault_singleton (order : List String) (name : String) (e : Mismatch) :
    firstFault order [(name, e)] = e := by
  have hfound : ∀ key m, Fields.get? key [(name, e)] = some m → m = e := by
    intro key m h
    have hmem := Fields.mem_of_get? h
    simp only [List.mem_singleton, Prod.mk.injEq] at hmem
    exact hmem.2
  rw [firstFault]
  cases h : order.findSome? fun key => Fields.get? key [(name, e)] with
  | none => rfl
  | some m =>
      obtain ⟨key, -, hkey⟩ := List.exists_of_findSome?_eq_some h
      rw [hfound key m hkey]
      rfl

/-! ### Records -/

theorem names_keptFields [Source σ] {entries : List (String × σ)} {kept : List (String × Value)}
    (h : keptFields entries = .ok kept) : Fields.names kept = Fields.names entries := by
  induction entries generalizing kept with
  | nil =>
      cases h
      rfl
  | cons entry rest ih =>
      obtain ⟨key, v⟩ := entry
      rw [keptFields] at h
      split at h
      · rename_i hrest
        cases h
        exact congrArg (key :: ·) (ih hrest)
      · cases h
      · cases h

/-- A record that was read keeps fields of other names than it knows. -/
theorem openRecord_eq_ok [Source σ] {name : String}
    {schema : Schema σ (List (String × Value) → α)} {v : σ} {a : α}
    (h : openRecord name schema v = .ok a) :
    ∃ entries record others,
      Source.entries (recordName name) schema.names v = .ok entries ∧
      schema.read (fun key => Fields.get? key entries) = .done record ∧ a = record others ∧
      ∀ key ∈ Fields.names others, key ∉ schema.names := by
  rw [openRecord] at h
  split at h
  · cases h
  rename_i entries hentries
  simp only at h
  split at h
  · cases h
  rename_i record hrecord
  split at h
  · cases h
  rename_i kept hkept
  cases h
  refine ⟨entries, record, Fields.ofList kept, hentries, conclude_eq_ok_iff.mp hrecord, rfl, ?_⟩
  -- what is kept was sorted out by its name before it was kept
  intro key hkey
  obtain ⟨field, hfield, rfl⟩ := List.mem_map.mp hkey
  have hname : field.1 ∈ Fields.names kept := List.mem_map_of_mem (Fields.mem_ofList hfield)
  rw [names_keptFields hkept] at hname
  obtain ⟨entry, hentry, hsame⟩ := List.mem_map.mp hname
  have hunknown := (List.mem_filter.mp hentry).2
  simpa [hsame] using hunknown

theorem closedRecord_canonical {name : String} {schema : Schema Value α}
    {fields : List (String × Value)} {a : α}
    (h : schema.read (fun key => (Value.object fields).canonical.get? key) = .done a) :
    closedRecord name schema (Value.object fields).canonical = .ok a :=
  conclude_eq_ok_iff.mpr h

/-- A record that was read is put together from parts of the value. -/
theorem exists_content_of_closedRecord {name : String} {schema : Schema Value α} {v : Value}
    (hv : v.IsCanonical) {a : α} (h : closedRecord name schema v = .ok a) :
    ∃ content : String → Option Value, schema.read content = .done a ∧
      ∀ key x, content key = some x → x.IsCanonical := by
  cases v with
  | object fields =>
      exact ⟨_, conclude_eq_ok_iff.mp h, fun _ _ => hv.2.of_get?⟩
  | array items =>
      simp only [closedRecord] at h
      split at h
      · rename_i hread
        split at h
        · cases h
        cases h
        refine ⟨_, conclude_eq_ok_iff.mp hread, fun key x hx => ?_⟩
        exact Value.itemsCanonical_iff.mp hv x (List.of_mem_zip (Fields.mem_of_get? hx)).2
      · cases h
  | _ => cases h

/-! ### Lists and options of values -/

theorem exists_mem_of_each {decode : σ → Decoded α} {items : List σ} {as : List α}
    (h : each decode items = .ok as) {a : α} (ha : a ∈ as) : ∃ v ∈ items, decode v = .ok a := by
  induction items generalizing as with
  | nil =>
      cases h
      cases ha
  | cons v rest ih =>
      rw [each] at h
      split at h
      · cases h
      rename_i first hfirst
      split at h
      · cases h
      rename_i others hothers
      cases h
      rcases List.mem_cons.mp ha with rfl | ha
      · exact ⟨v, List.mem_cons_self, hfirst⟩
      · obtain ⟨w, hw, hdecode⟩ := ih hothers ha
        exact ⟨w, List.mem_cons_of_mem _ hw, hdecode⟩

theorem each_map {decode : σ → Decoded α} {encode : α → σ} {as : List α}
    (h : ∀ a ∈ as, decode (encode a) = .ok a) : each decode (as.map encode) = .ok as := by
  induction as with
  | nil => rfl
  | cons a rest ih =>
      rw [List.map_cons, each, h a List.mem_cons_self,
        ih fun b hb => h b (List.mem_cons_of_mem _ hb)]

theorem exists_mem_of_list {decode : Value → Decoded α} {v : Value} {as : List α}
    (h : list decode v = .ok as) :
    ∃ items, v = .array items ∧ ∀ a ∈ as, ∃ w ∈ items, decode w = .ok a := by
  cases v with
  | array items => exact ⟨items, rfl, fun a ha => exists_mem_of_each h ha⟩
  | _ => cases h

theorem option_eq_ok_some {decode : Value → Decoded α} {v : Value} {a : α}
    (h : option decode v = .ok (some a)) : v.isNull = false ∧ decode v = .ok a := by
  cases v with
  | null => cases h
  | _ =>
      refine ⟨rfl, ?_⟩
      unfold option at h
      simp only [Source.optional, Value.decodeOptional] at h
      split at h
      · cases h
      · rename_i hdecode
        cases h
        exact hdecode

/-- Where an option was read there is something that it was read from. -/
theorem exists_of_fits_some {decode : Value → Decoded α} {content : Option Value} {a : α}
    (h : Fits (option decode) (some none) content (some a)) :
    ∃ v, content = some v ∧ v.isNull = false ∧ decode v = .ok a := by
  rcases fits_iff.mp h with ⟨-, habsent⟩ | ⟨v, hcontent, hdecode⟩
  · cases habsent
  · exact ⟨v, hcontent, option_eq_ok_some hdecode⟩

theorem holds_of_decodeInteger {t : IntType} {v : Value} {n : Int}
    (h : Value.decodeInteger t v = .ok n) : t.holds n = true := by
  unfold Value.decodeInteger at h
  split at h
  · split at h
    · rename_i hholds
      cases h
      exact hholds
    · cases h
  · cases h

theorem holds_of_fits {t : IntType} {content : Option Value} {n : Int}
    (h : Fits (Value.decodeInteger t) none content n) : t.holds n = true := by
  rcases fits_iff.mp h with ⟨-, habsent⟩ | ⟨v, -, hv⟩
  · cases habsent
  · exact holds_of_decodeInteger hv

theorem eq_object_of_entries {expected : String} {names : List String} {v : Value}
    {entries : List (String × Value)} (h : Source.entries expected names v = .ok entries) :
    v = .object entries := by
  cases v with
  | object fields =>
      cases h
      rfl
  | _ => cases h

/-! ### Reading what was written -/

/-- What is written is read as what it was written of. -/
def Reads (decode : Value → Decoded α) (encode : α → Value) (a : α) : Prop :=
  decode (encode a).canonical = .ok a

theorem Reads.fits {decode : Value → Decoded α} {encode : α → Value} {a : α}
    (h : Reads decode encode a) (absent : Option α) :
    Fits decode absent (some (encode a).canonical) a := h

theorem reads_text (s : String) : Reads Value.decodeText Value.string s := rfl

theorem reads_value {v : Value} (h : v.IsCanonical) : Reads Source.value id v :=
  congrArg Except.ok (Value.canonical_eq_self v h)

theorem canonical_list (encode : α → Value) (as : List α) :
    (Encode.list encode as).canonical = .array (as.map fun a => (encode a).canonical) := by
  rw [Encode.list, Value.canonical, Value.canonicalItems_eq_map, List.map_map]
  rfl

theorem fits_list {decode : Value → Decoded α} {encode : α → Value} {as : List α}
    (h : ∀ a ∈ as, Reads decode encode a) (absent : Option (List α)) :
    Fits (list decode) absent (some (Encode.list encode as).canonical) as := by
  rw [canonical_list]
  exact each_map h

/-- A list that is left out when it is empty is read as an empty one. -/
theorem fits_nonEmptyList {decode : Value → Decoded α} {encode : α → Value} {as : List α}
    (h : ∀ a ∈ as, Reads decode encode a) :
    Fits (list decode) (some [])
      (if as ≠ [] then some (Encode.list encode as).canonical else none) as := by
  split
  · exact fits_list h _
  · rename_i hnil
    exact congrArg some (of_not_not hnil).symm

/-- A value that is left out when it is absent is read as absent, if it is never written as null. -/
theorem fits_optional {decode : Value → Decoded α} {encode : α → Value} {o : Option α}
    (h : ∀ a, o = some a → (encode a).isNull = false ∧ Reads decode encode a) :
    Fits (option decode) (some none) (o.map fun a => (encode a).canonical) o := by
  cases o with
  | none => rfl
  | some a =>
      obtain ⟨hnull, hread⟩ := h a rfl
      rw [← Value.isNull_canonical] at hnull
      have hthere : Value.decodeOptional (encode a).canonical =
          .ok (some (encode a).canonical) := by
        cases hv : (encode a).canonical with
        | null =>
            rw [hv] at hnull
            cases hnull
        | _ => rfl
      have hread' : decode (encode a).canonical = .ok a := hread
      simp only [Option.map_some, Fits, option, Source.optional, hthere, hread']

/-- An integer that fits its type is read as it was written. -/
theorem reads_ofInt {t : IntType} {n : Int} (h : t.holds n = true) :
    Reads (Value.decodeInteger t) Value.ofInt n := by
  have hrange : -twoTo 63 ≤ n ∧ n < twoTo 64 := by
    cases t with
    | signed =>
        simp only [IntType.holds, decide_eq_true_eq] at h
        have : twoTo 63 ≤ twoTo 64 := by decide
        omega
    | unsigned =>
        simp only [IntType.holds, decide_eq_true_eq] at h
        have : 0 ≤ twoTo 63 := by decide
        omega
  simp only [Reads, Value.ofInt, Number.ofInt, if_pos hrange, Value.canonical, Value.decodeInteger,
    h, if_true]

end Decode

end ClusterTuning
