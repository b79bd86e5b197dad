import ClusterTuning.Failure
import ClusterTuning.Proofs.Records
import Mathlib.Data.List.Forall2

/-!
# ClusterTuning.Proofs.Records.Survival

**What survives when a record is read and written again.**

A record that keeps unknown fields has a level of its own in the value that it was read from: the
fields that it names, and all others. `Survives` says of one such level that nothing is lost between
the value that was read and the one that was written. Only content that counts as nothing is left
out, and each named field says itself which content that is.

The unknown fields of a record are those of the value it was read from (`openRecord_eq_ok_iff`), and
what is written behind the named fields is read as the unknown fields again
(`openRecord_canonical`).
-/

namespace ClusterTuning

/-! ### Unknown fields -/

theorem Fields.get?_filter {α : Type} (keep : String → Bool) (key : String)
    (fields : List (String × α)) :
    get? key (fields.filter fun field => keep field.1) =
      if keep key then get? key fields else none := by
  induction fields with
  | nil => simp
  | cons field rest ih =>
      obtain ⟨name, v⟩ := field
      by_cases hname : name = key
      · subst hname
        by_cases hkeep : keep name = true
        · simp [hkeep, get?]
        · rw [List.filter_cons_of_neg (by simpa using hkeep), ih, if_neg hkeep, if_neg hkeep]
      · by_cases hkeep : keep name = true
        · simp [hkeep, get?, hname, ih]
        · rw [List.filter_cons_of_neg (by simpa using hkeep), ih, get?, if_neg hname]

namespace Value

/-- The fields of an object that have none of the given names. -/
def unknown (names : List String) : Value → List (String × Value)
  | .object fields => fields.filter fun field => !names.contains field.1
  | _ => []

theorem get?_unknown (names : List String) (key : String) (v : Value) :
    Fields.get? key (v.unknown names) = if key ∈ names then none else v.get? key := by
  cases v with
  | object fields =>
      rw [unknown, Fields.get?_filter (fun name => !names.contains name)]
      by_cases hkey : key ∈ names <;> simp [hkey]
  | _ => exact (ite_self none).symm

theorem IsCanonical.of_get? {v x : Value} (hv : v.IsCanonical) {key : String}
    (hget : v.get? key = some x) : x.IsCanonical := by
  cases v with
  | object fields => exact hv.2.of_get? hget
  | _ => cases hget

end Value

namespace Decode

variable {α β : Type}

/-- Fields that a record which names the given fields can keep besides them. -/
structure Kept (names : List String) (other : List (String × Value)) : Prop where
  /-- They are in order. -/
  ordered : Fields.Ordered other
  /-- They hold values in canonical form. -/
  canonical : Value.FieldsCanonical other
  /-- They have other names. -/
  unknown : ∀ name ∈ names, name ∉ Fields.names other

theorem Kept.nil (names : List String) : Kept names [] :=
  ⟨Fields.ordered_nil, trivial, fun _ _ => List.not_mem_nil⟩

/-- The unknown fields of a canonical value can be kept. -/
theorem kept_unknown {v : Value} (hv : v.IsCanonical) (names : List String) :
    Kept names (v.unknown names) := by
  cases v with
  | object fields =>
      refine ⟨hv.1.sublist List.filter_sublist, ?_, ?_⟩
      · exact Value.fieldsCanonical_iff.mpr fun field hfield =>
          Value.fieldsCanonical_iff.mp hv.2 field (List.mem_of_mem_filter hfield)
      · intro name hname hmem
        obtain ⟨field, hfield, rfl⟩ := List.mem_map.mp hmem
        have hnot := (List.mem_filter.mp hfield).2
        simp [hname] at hnot
  | _ => exact Kept.nil names

theorem kept_of_eq {v : Value} (hv : v.IsCanonical) {names : List String}
    {other : List (String × Value)} (h : other = v.unknown names) : Kept names other :=
  h ▸ kept_unknown hv names

section Written

variable {names : List String} {known other : List (String × Value)}

theorem Kept.get?_canonical (h : Kept names other) (key : String) :
    (Value.object other).canonical.get? key = Fields.get? key other := by
  rw [Value.canonical_eq_self (.object other) ⟨h.ordered, h.canonical⟩, Value.get?_object]

theorem Kept.get?_named (h : Kept names other) {name : String} (hname : name ∈ names) :
    (Value.object (known ++ other)).canonical.get? name =
      (Value.object known).canonical.get? name := by
  rw [Encode.get?_canonical_append, Encode.get?_canonical_of_not_mem (h.unknown name hname),
    Option.none_or]

/-- Behind named fields lie the ones that were kept. -/
theorem Kept.get?_written (h : Kept names other) (hknown : Fields.names known ⊆ names)
    {key : String} (hkey : key ∉ names) :
    (Value.object (known ++ other)).canonical.get? key = Fields.get? key other := by
  have hnone := Encode.get?_canonical_of_not_mem fun hmem => hkey (hknown hmem)
  rw [Encode.get?_canonical_append, hnone, Option.or_none, h.get?_canonical]

/-- Written behind the known fields, those that are kept are the unknown ones again. -/
theorem Kept.unknown_written (h : Kept names other) (hknown : Fields.names known ⊆ names) :
    (Value.object (known ++ other)).canonical.unknown names = other := by
  have hwritten := kept_unknown (Value.isCanonical_canonical (.object (known ++ other))) names
  -- both are in order, so they are compared name by name
  refine Fields.eq_of_get?_eq hwritten.ordered h.ordered ?_
  intro key
  rw [Value.get?_unknown]
  by_cases hkey : key ∈ names
  · rw [if_pos hkey, Fields.get?_eq_none_of_not_mem (h.unknown key hkey)]
  · rw [if_neg hkey, h.get?_written hknown hkey]

end Written

/-! ### Records that keep unknown fields -/

/-- A named field is read again when it fits where the named fields are written alone. -/
theorem Kept.fits_written {names : List String} {known other : List (String × Value)}
    (h : Kept names other) {decode : Value → Decoded α} {absent : Option α}
    {content : Option Value} {name : String} {a : α} (hname : name ∈ names)
    (hcontent : (Value.object known).canonical.get? name = content)
    (hfits : Fits decode absent content a) :
    Fits decode absent ((Value.object (known ++ other)).canonical.get? name) a := by
  rw [h.get?_named hname, hcontent]
  exact hfits

theorem fits_nonEmptyText (s : String) :
    Fits Value.decodeText (some "") (if s ≠ "" then some (.string s) else none) s := by
  split
  · rfl
  · rename_i hempty
    exact congrArg some (of_not_not hempty).symm

theorem keptFields_values (entries : List (String × Value)) : keptFields entries = .ok entries := by
  induction entries with
  | nil => rfl
  | cons entry rest ih =>
      rw [keptFields, ih]
      rfl

/-- Of an object in canonical form, a record is made of the named fields and keeps the others. -/
theorem openRecord_object {name : String} {schema : Schema Value (List (String × Value) → α)}
    {fields : List (String × Value)} (hv : (Value.object fields).IsCanonical) :
    openRecord name schema (.object fields) =
      ((schema.read fun key => Fields.get? key fields).conclude (Fields.names fields) .missing).map
        fun record => record (Value.unknown schema.names (.object fields)) := by
  have hother : Fields.ofList (Value.unknown schema.names (.object fields)) =
      Value.unknown schema.names (.object fields) :=
    Fields.ofList_eq_self (kept_unknown hv schema.names).ordered
  simp only [openRecord, Source.entries, Value.decodeEntries, keptFields_values]
  split
  · rename_i hread
    rw [hread]
    rfl
  · rename_i record hread
    rw [hread]
    exact congrArg (fun other => Except.ok (record other)) hother

/-- A record is read from a value in canonical form when its named fields are read from an object,
and it keeps the unknown ones. -/
theorem openRecord_eq_ok_iff {name : String} {schema : Schema Value (List (String × Value) → α)}
    {v : Value} (hv : v.IsCanonical) {a : α} :
    openRecord name schema v = .ok a ↔ v.isObject = true ∧
      ∃ record, schema.read (fun key => v.get? key) = .done record ∧
        a = record (v.unknown schema.names) := by
  cases v with
  | object fields =>
      rw [openRecord_object hv, map_eq_ok_iff]
      simp only [conclude_eq_ok_iff, Value.isObject, Value.get?_object, true_and,
        eq_comm (a := a)]
  | _ => simp [openRecord, Source.entries, Value.decodeEntries, Value.isObject]

/-- A single field that does not fit is what is reported. -/
theorem openRecord_eq_error {name : String} {schema : Schema Value (List (String × Value) → α)}
    {v : Value} (hv : v.IsCanonical) (hobject : v.isObject = true) {field : String} {e : Mismatch}
    (hread : schema.read (fun key => v.get? key) = .wrong [(field, e)]) :
    openRecord name schema v = .error e := by
  cases v with
  | object fields =>
      have hfault : schema.read (fun key => Fields.get? key fields) = .wrong [(field, e)] := hread
      rw [openRecord_object hv, hfault, Reading.conclude, firstFault_singleton]
      rfl
  | _ => cases hobject

/-- What is written is read again, once the named fields are. -/
theorem openRecord_canonical {name : String}
    {schema : Schema Value (List (String × Value) → α)} {known other : List (String × Value)}
    {f : List (String × Value) → α} (hother : Kept schema.names other)
    (hknown : Fields.names known ⊆ schema.names)
    (hread : schema.read (fun key => (Value.object (known ++ other)).canonical.get? key) =
      .done f) :
    openRecord name schema (Value.object (known ++ other)).canonical = .ok (f other) := by
  refine (openRecord_eq_ok_iff (Value.isCanonical_canonical _)).mpr ⟨rfl, f, hread, ?_⟩
  rw [hother.unknown_written hknown]

/-! ### One level of a value -/

/-- A field that a record names. -/
structure NamedField where
  /-- The name. -/
  name : String
  /-- Content that counts as nothing, and need not be written. -/
  skipped : Option Value := none
  /-- How content that was written compares with content that was read. -/
  same : Value → Value → Prop := Eq

/-- What was read for the field was written, unless it counts as nothing. -/
def NamedField.Carries (f : NamedField) (before after : Option Value) : Prop :=
  ∀ x, before = some x → f.skipped ≠ some x → ∃ y, after = some y ∧ f.same x y

/-- Nothing of one level was lost between the value that was read and the one that was written. -/
structure Survives (level : List NamedField) (before after : Value) : Prop where
  /-- An object stays an object. -/
  isObject : before.isObject = true ∧ after.isObject = true
  /-- Each named field carries its content over. -/
  named : ∀ f ∈ level, f.Carries (before.get? f.name) (after.get? f.name)
  /-- Under every other name lies what was there. -/
  unnamed : ∀ key, key ∉ level.map NamedField.name → after.get? key = before.get? key

/-- Two lists of the same length, whose items are the same in turn. -/
def SameItems (same : Value → Value → Prop) (before after : Value) : Prop :=
  ∃ items others, before = .array items ∧ after = .array others ∧
    List.Forall₂ same items others

/-- A record that keeps the unknown fields of a value survives when its named fields do. -/
theorem Survives.of_written {level : List NamedField} {v : Value} (hv : v.IsCanonical)
    (hobject : v.isObject = true) {known other : List (String × Value)}
    (hknown : Fields.names known ⊆ level.map NamedField.name)
    (hother : other = v.unknown (level.map NamedField.name))
    (hnamed : ∀ f ∈ level,
      f.Carries (v.get? f.name) ((Value.object known).canonical.get? f.name)) :
    Survives level v (Value.object (known ++ other)).canonical := by
  have hkept := kept_of_eq hv hother
  refine ⟨⟨hobject, rfl⟩, ?_, ?_⟩
  · intro f hf
    rw [hkept.get?_named (List.mem_map_of_mem hf)]
    exact hnamed f hf
  · intro key hkey
    rw [hkept.get?_written hknown hkey, hother, Value.get?_unknown, if_neg hkey]

/-! ### The content of named fields -/

/-- What is written for content that was read compares with that content. -/
def Restores (decode : Value → Decoded α) (encode : α → Value) (same : Value → Value → Prop) :
    Prop :=
  ∀ ⦃v : Value⦄ ⦃a : α⦄, v.IsCanonical → decode v = .ok a → same v (encode a).canonical

theorem restores_text : Restores Value.decodeText Value.string Eq := by
  intro v s _ h
  cases v with
  | string t =>
      cases h
      rfl
  | _ => cases h

theorem restores_flag : Restores Value.decodeFlag Value.bool Eq := by
  intro v b _ h
  cases v with
  | bool c =>
      cases h
      rfl
  | _ => cases h

theorem restores_integer (t : IntType) : Restores (Value.decodeInteger t) Value.ofInt Eq := by
  intro v n _ h
  have hreads : Value.decodeInteger t (Value.ofInt n).canonical = .ok n :=
    reads_ofInt (holds_of_decodeInteger h)
  have hinteger : ∀ {w : Value}, Value.decodeInteger t w = .ok n → w = .number (.int n) := by
    intro w hw
    unfold Value.decodeInteger at hw
    split at hw
    · split at hw <;> cases hw
      rfl
    · cases hw
  rw [hinteger h, hinteger hreads]

theorem restores_value : Restores Source.value id Eq := by
  intro v w hv h
  cases h
  exact (Value.canonical_eq_self v hv).symm

theorem forall₂_of_each {decode : Value → Decoded α} {items : List Value} {as : List α}
    (h : each decode items = .ok as) : List.Forall₂ (fun v a => decode v = .ok a) items as := by
  induction items generalizing as with
  | nil =>
      cases h
      exact .nil
  | cons v rest ih =>
      rw [each] at h
      split at h
      · cases h
      rename_i a ha
      split at h
      · cases h
      rename_i others hothers
      cases h
      exact .cons ha (ih hothers)

/-- A list is written with its items in order if each item is. -/
theorem restores_list {decode : Value → Decoded α} {encode : α → Value}
    {same : Value → Value → Prop} (h : Restores decode encode same) :
    Restores (list decode) (Encode.list encode) (SameItems same) := by
  intro v as hv hdecode
  cases v with
  | array items =>
      refine ⟨items, _, rfl, canonical_list encode as, ?_⟩
      have hitems : List.Forall₂ _ items as := forall₂_of_each hdecode
      have hcanonical := Value.itemsCanonical_iff.mp hv
      rw [List.forall₂_map_right_iff]
      exact ((List.forall₂_and_left items as).mpr ⟨hcanonical, hitems⟩).imp
        fun v a hva => h hva.1 hva.2
  | _ => cases hdecode

theorem restores_texts : Restores (list Value.decodeText) (Encode.list Value.string) Eq := by
  intro v texts hv h
  obtain ⟨items, others, rfl, hothers, hsame⟩ := restores_list restores_text hv h
  rw [hothers, List.forall₂_eq_eq_eq] at *
  rw [hsame]

/-- What holds of every record that is read holds of the record of a field. -/
theorem of_fits {decode : Value → Decoded α} {P : α → Prop} {content : Option Value}
    (hcontent : ∀ v, content = some v → v.IsCanonical) {a default : α}
    (hfits : Fits decode (some default) content a) (hdefault : P default)
    (hdecode : ∀ {v : Value}, v.IsCanonical → ∀ {b : α}, decode v = .ok b → P b) : P a := by
  rcases fits_iff.mp hfits with ⟨-, habsent⟩ | ⟨v, hv, h⟩
  · cases habsent
    exact hdefault
  · exact hdecode (hcontent v hv) h

theorem of_fits_list {decode : Value → Decoded α} {P : α → Prop} {content : Option Value}
    (hcontent : ∀ v, content = some v → v.IsCanonical) {as : List α}
    (hfits : Fits (list decode) (some []) content as)
    (hdecode : ∀ {v : Value}, v.IsCanonical → ∀ {b : α}, decode v = .ok b → P b) :
    ∀ a ∈ as, P a := by
  have hnil : ∀ a ∈ ([] : List α), P a := nofun
  refine of_fits (P := fun as => ∀ a ∈ as, P a) hcontent hfits hnil ?_
  intro v hv as has a ha
  obtain ⟨items, rfl, hitems⟩ := exists_mem_of_list has
  obtain ⟨item, hitem, hread⟩ := hitems a ha
  exact hdecode (Value.itemsCanonical_iff.mp hv item hitem) hread

section Carries

variable {decode : Value → Decoded α} {encode : α → Value} {f : NamedField} {v : Value}
  {key : String} {after : Option Value}

theorem carries_field (hv : v.IsCanonical) {absent : Option α} {a : α}
    (h : Restores decode encode f.same) (hfits : Fits decode absent (v.get? key) a)
    (hafter : after = some (encode a).canonical) : f.Carries (v.get? key) after := by
  intro x hx _
  rw [hx] at hfits
  exact ⟨_, hafter, h (hv.of_get? hx) hfits⟩

/-- An option is left out when it is nothing. -/
theorem carries_optional (hv : v.IsCanonical) {o : Option α} (h : Restores decode encode f.same)
    (hskipped : f.skipped = some .null)
    (hfits : Fits (option decode) (some none) (v.get? key) o)
    (hafter : after = o.map fun a => (encode a).canonical) : f.Carries (v.get? key) after := by
  intro x hx hne
  rw [hx] at hfits
  cases o with
  | none =>
      -- only what is null is read as nothing
      have hnull : x ≠ .null := fun hnull => hne (hnull ▸ hskipped)
      have hsome : Value.decodeOptional x = .ok (some x) := by
        cases x with
        | null => exact absurd rfl hnull
        | _ => rfl
      simp only [Fits, option, Source.optional, hsome] at hfits
      split at hfits <;> cases hfits
  | some a => exact ⟨_, hafter, h (hv.of_get? hx) (option_eq_ok_some hfits).2⟩

/-- Text is left out when it is empty. -/
theorem carries_nonEmptyText {absent : Option String} {s : String} (hsame : f.same = Eq)
    (hskipped : f.skipped = some (.string ""))
    (hfits : Fits Value.decodeText absent (v.get? key) s)
    (hafter : after = if s ≠ "" then some (.string s) else none) :
    f.Carries (v.get? key) after := by
  intro x hx hne
  rw [hx] at hfits
  cases x with
  | string t =>
      cases hfits
      have hs : s ≠ "" := fun hs => hne (hs ▸ hskipped)
      exact ⟨.string s, hafter.trans (if_pos hs), hsame ▸ rfl⟩
  | _ => cases hfits

/-- A list is left out when it is empty. -/
theorem carries_nonEmptyList (hv : v.IsCanonical) {write : List α → Value} {as : List α}
    (h : Restores (list decode) write f.same) (hskipped : f.skipped = some (.array []))
    (hfits : Fits (list decode) (some []) (v.get? key) as)
    (hafter : as ≠ [] → after = some (write as).canonical) : f.Carries (v.get? key) after := by
  intro x hx hne
  rw [hx] at hfits
  have hitems : as ≠ [] := by
    rintro rfl
    obtain ⟨items, rfl, -⟩ := exists_mem_of_list hfits
    have hnone : List.Forall₂ _ items [] := forall₂_of_each hfits
    cases hnone
    exact hne hskipped
  exact ⟨_, hafter hitems, h (hv.of_get? hx) hfits⟩

end Carries

/-! ### The names of written fields -/

theorem names_append (front back : List (String × Value)) :
    Fields.names (front ++ back) = Fields.names front ++ Fields.names back :=
  List.map_append

section Names

variable {names : List String} {name : String}

theorem names_field_subset (h : name ∈ names) (v : Value) :
    Fields.names (Encode.field name v) ⊆ names :=
  List.cons_subset.mpr ⟨h, List.nil_subset names⟩

theorem names_optional_subset (h : name ∈ names) (encode : α → Value) (o : Option α) :
    Fields.names (Encode.optional name encode o) ⊆ names := by
  cases o with
  | none => exact List.nil_subset names
  | some a => exact List.cons_subset.mpr ⟨h, List.nil_subset names⟩

theorem names_nonEmptyText_subset (h : name ∈ names) (text : String) :
    Fields.names (Encode.nonEmptyText name text) ⊆ names := by
  unfold Encode.nonEmptyText
  split
  · exact List.nil_subset names
  · exact List.cons_subset.mpr ⟨h, List.nil_subset names⟩

theorem names_nonEmptyList_subset (h : name ∈ names) (encode : α → Value) (as : List α) :
    Fields.names (Encode.nonEmptyList name encode as) ⊆ names := by
  cases as with
  | nil => exact List.nil_subset names
  | cons a rest => exact List.cons_subset.mpr ⟨h, List.nil_subset names⟩

variable {encode : α → Value}

theorem names_optional_sublist {o changed : Option α}
    (h : o.isSome = true → changed.isSome = true) :
    (Fields.names (Encode.optional name encode o)).Sublist
      (Fields.names (Encode.optional name encode changed)) := by
  cases o with
  | none => exact List.nil_sublist _
  | some a =>
      obtain ⟨b, rfl⟩ := Option.isSome_iff_exists.mp (h rfl)
      exact List.Sublist.refl _

theorem names_nonEmptyList_sublist {as changed : List α} (h : as ≠ [] → changed ≠ []) :
    (Fields.names (Encode.nonEmptyList name encode as)).Sublist
      (Fields.names (Encode.nonEmptyList name encode changed)) := by
  cases as with
  | nil => exact List.nil_sublist _
  | cons a rest =>
      obtain ⟨b, others, rfl⟩ := List.exists_cons_of_ne_nil (h (List.cons_ne_nil a rest))
      exact List.Sublist.refl _

end Names

end Decode

end ClusterTuning
