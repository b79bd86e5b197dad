import ClusterTuning.MergePatch
import ClusterTuning.Proofs.OrderedFields

/-!
# ClusterTuning.Proofs.Canonical

**Values whose objects hold their fields in the order of their names.**

`Value.IsCanonical` is the form in which values are read. Putting a value into canonical
form reaches it, and merging keeps it, so two canonical objects are equal as soon as they
hold the same under every name.
-/

namespace ClusterTuning.Value

mutual

/-- Every object in the value holds its fields in the order of their names. -/
def IsCanonical : Value → Prop
  | .array items => ItemsCanonical items
  | .object fields => Fields.Ordered fields ∧ FieldsCanonical fields
  | _ => True

/-- All items are canonical. -/
def ItemsCanonical : List Value → Prop
  | [] => True
  | v :: rest => v.IsCanonical ∧ ItemsCanonical rest

/-- The values of all fields are canonical. -/
def FieldsCanonical : List (String × Value) → Prop
  | [] => True
  | (_, v) :: rest => v.IsCanonical ∧ FieldsCanonical rest

end

@[simp] theorem isCanonical_null : IsCanonical .null := trivial
@[simp] theorem isCanonical_bool (b : Bool) : IsCanonical (.bool b) := trivial
@[simp] theorem isCanonical_number (n : Number) : IsCanonical (.number n) := trivial
@[simp] theorem isCanonical_string (s : String) : IsCanonical (.string s) := trivial

theorem itemsCanonical_iff {items : List Value} :
    ItemsCanonical items ↔ ∀ v ∈ items, v.IsCanonical := by
  induction items with
  | nil => simp [ItemsCanonical]
  | cons v rest ih => simp [ItemsCanonical, ih]

theorem fieldsCanonical_iff {fields : List (String × Value)} :
    FieldsCanonical fields ↔ ∀ field ∈ fields, field.2.IsCanonical := by
  induction fields with
  | nil => simp [FieldsCanonical]
  | cons field rest ih => simp [FieldsCanonical, ih]

/-! ### Fields of canonical values -/

theorem FieldsCanonical.of_get? {key : String} {v : Value} {fields : List (String × Value)}
    (h : FieldsCanonical fields) (hget : Fields.get? key fields = some v) : v.IsCanonical :=
  fieldsCanonical_iff.mp h _ (Fields.mem_of_get? hget)

theorem FieldsCanonical.put {fields : List (String × Value)} (h : FieldsCanonical fields)
    (key : String) {v : Value} (hv : v.IsCanonical) :
    FieldsCanonical (Fields.put key v fields) := by
  refine fieldsCanonical_iff.mpr ?_
  intro field hfield
  rcases Fields.mem_put hfield with rfl | hfield
  · exact hv
  · exact fieldsCanonical_iff.mp h field hfield

theorem FieldsCanonical.erase {fields : List (String × Value)} (h : FieldsCanonical fields)
    (key : String) : FieldsCanonical (Fields.erase key fields) :=
  fieldsCanonical_iff.mpr fun field hfield =>
    fieldsCanonical_iff.mp h field (List.mem_of_mem_filter hfield)

/-- The object of any canonical contents is canonical. -/
theorem isCanonical_object_ofList {entries : List (String × Value)} (h : FieldsCanonical entries) :
    IsCanonical (.object (Fields.ofList entries)) :=
  ⟨Fields.ordered_ofList entries, fieldsCanonical_iff.mpr fun field hfield =>
    fieldsCanonical_iff.mp h field (Fields.mem_ofList hfield)⟩

mutual

theorem isCanonical_canonical : ∀ v : Value, v.canonical.IsCanonical
  | .null | .bool _ | .number _ | .string _ => trivial
  | .array items => itemsCanonical_canonicalItems items
  | .object fields => isCanonical_object_ofList (fieldsCanonical_canonicalFields fields)

theorem itemsCanonical_canonicalItems : ∀ items : List Value, ItemsCanonical (canonicalItems items)
  | [] => trivial
  | v :: rest => ⟨isCanonical_canonical v, itemsCanonical_canonicalItems rest⟩

theorem fieldsCanonical_canonicalFields :
    ∀ fields : List (String × Value), FieldsCanonical (canonicalFields fields)
  | [] => trivial
  | (_, v) :: rest => ⟨isCanonical_canonical v, fieldsCanonical_canonicalFields rest⟩

end

theorem names_canonicalFields (fields : List (String × Value)) :
    Fields.names (canonicalFields fields) = Fields.names fields := by
  induction fields with
  | nil => rfl
  | cons field rest ih => exact congrArg (field.1 :: ·) ih

/-! ### Canonical form of parts -/

@[simp] theorem canonical_string (s : String) : (string s).canonical = .string s := rfl

theorem isNull_canonical (v : Value) : v.canonical.isNull = v.isNull := by
  cases v <;> rfl

theorem canonicalItems_eq_map (items : List Value) :
    canonicalItems items = items.map canonical := by
  induction items with
  | nil => rfl
  | cons v rest ih => rw [canonicalItems, ih, List.map_cons]

theorem canonicalFields_append (front back : List (String × Value)) :
    canonicalFields (front ++ back) = canonicalFields front ++ canonicalFields back := by
  induction front with
  | nil => rfl
  | cons field rest ih => exact congrArg ((field.1, field.2.canonical) :: ·) ih

/-! ### Canonical values are in canonical form -/

mutual

theorem canonical_eq_self : ∀ v : Value, v.IsCanonical → v.canonical = v
  | .null, _ | .bool _, _ | .number _, _ | .string _, _ => rfl
  | .array items, h => by rw [canonical, canonicalItems_eq_self items h]
  | .object fields, h => by
      rw [canonical, canonicalFields_eq_self fields h.2, Fields.ofList_eq_self h.1]

theorem canonicalItems_eq_self :
    ∀ items : List Value, ItemsCanonical items → canonicalItems items = items
  | [], _ => rfl
  | v :: rest, h => by
      rw [canonicalItems, canonical_eq_self v h.1, canonicalItems_eq_self rest h.2]

theorem canonicalFields_eq_self :
    ∀ fields : List (String × Value), FieldsCanonical fields → canonicalFields fields = fields
  | [], _ => rfl
  | (_, v) :: rest, h => by
      rw [canonicalFields, canonical_eq_self v h.1, canonicalFields_eq_self rest h.2]

end

/-! ### Merging keeps values canonical -/

/-- Dropping nulls drops fields, and leaves the names of the others in their order. -/
theorem names_fieldsWithoutNulls_sublist (fields : List (String × Value)) :
    (Fields.names (fieldsWithoutNulls fields)).Sublist (Fields.names fields) := by
  induction fields with
  | nil => exact List.Sublist.refl _
  | cons field rest ih =>
      obtain ⟨key, v⟩ := field
      rw [fieldsWithoutNulls]
      split
      · exact ih.cons key
      · exact ih.cons_cons key

mutual

theorem isCanonical_withoutNulls : ∀ v : Value, v.IsCanonical → v.withoutNulls.IsCanonical
  | .null, _ | .bool _, _ | .number _, _ | .string _, _ => trivial
  | .array items, h => itemsCanonical_withoutNulls items h
  | .object fields, h =>
    ⟨List.Pairwise.sublist (names_fieldsWithoutNulls_sublist fields) h.1,
      fieldsCanonical_withoutNulls fields h.2⟩

theorem itemsCanonical_withoutNulls :
    ∀ items : List Value, ItemsCanonical items → ItemsCanonical (itemsWithoutNulls items)
  | [], _ => trivial
  | v :: rest, h => ⟨isCanonical_withoutNulls v h.1, itemsCanonical_withoutNulls rest h.2⟩

theorem fieldsCanonical_withoutNulls : ∀ fields : List (String × Value),
    FieldsCanonical fields → FieldsCanonical (fieldsWithoutNulls fields)
  | [], _ => trivial
  | (_, v) :: rest, h => by
      rw [fieldsWithoutNulls]
      split
      · exact fieldsCanonical_withoutNulls rest h.2
      · exact ⟨isCanonical_withoutNulls v h.1, fieldsCanonical_withoutNulls rest h.2⟩

end

/-- Items stay canonical when those of a name are changed or a fresh one is added, where the change
and the fresh item keep to it. -/
theorem itemsCanonical_changeNamed {name : Option String} {change : Value → Value} {fresh : Value}
    (hchange : ∀ v : Value, v.IsCanonical → (change v).IsCanonical) (hfresh : fresh.IsCanonical)
    {items : List Value} (h : ItemsCanonical items) :
    ItemsCanonical (changeNamed name change fresh items) := by
  induction items with
  | nil => exact ⟨hfresh, trivial⟩
  | cons v rest ih =>
      rw [changeNamed]
      split
      · exact ⟨hchange v h.1, h.2⟩
      · exact ⟨h.1, ih h.2⟩

mutual

/-- Merging keeps values canonical: fields stay in order, and no name comes twice. -/
theorem isCanonical_mergePatch : ∀ (patch : Value) {target : Value},
    target.IsCanonical → patch.IsCanonical → (mergePatch target patch).IsCanonical
  | .null, _, _, _ | .bool _, _, _, _ | .number _, _, _, _ | .string _, _, _, _ => by
      simp [mergePatch]
  | .array patch, target, ht, hp => by
      cases target with
      | array items =>
          rw [mergePatch]
          split
          · exact itemsCanonical_mergeItems patch ht hp
          · exact itemsCanonical_withoutNulls patch hp
      | _ => exact itemsCanonical_withoutNulls patch hp
  | .object patch, target, ht, hp => by
      cases target with
      | object fields => exact isCanonical_mergeFields patch ht hp.2
      | _ => exact isCanonical_withoutNulls (.object patch) hp

theorem itemsCanonical_mergeItems : ∀ (patch : List Value) {items : List Value},
    ItemsCanonical items → ItemsCanonical patch → ItemsCanonical (mergeItems items patch)
  | [], _, h, _ => h
  | v :: rest, _, h, hp => by
      rw [mergeItems]
      refine itemsCanonical_mergeItems rest ?_ hp.2
      exact itemsCanonical_changeNamed (fun old hold => isCanonical_mergePatch v hold hp.1)
        (isCanonical_withoutNulls v hp.1) h

theorem isCanonical_mergeFields :
    ∀ (patch : List (String × Value)) {fields : List (String × Value)},
      IsCanonical (.object fields) → FieldsCanonical patch →
        IsCanonical (.object (mergeFields fields patch))
  | [], _, h, _ => h
  | (key, v) :: rest, fields, h, hp => by
      rw [mergeFields]
      refine isCanonical_mergeFields rest ?_ hp.2
      split
      · exact ⟨h.1.erase key, h.2.erase key⟩
      · split
        · rename_i old hold
          exact ⟨h.1.put key _, h.2.put key (isCanonical_mergePatch v (h.2.of_get? hold) hp.1)⟩
        · exact ⟨h.1.put key _, h.2.put key (isCanonical_withoutNulls v hp.1)⟩

end

end ClusterTuning.Value
