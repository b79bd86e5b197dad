import ClusterTuning.Proofs.Canonical

/-!
# ClusterTuning.Proofs.Merge.Fields

**What merging does to one field.**

A patch acts on each name by itself: the entries of that name are applied in turn to what
is stored there (`get?_mergeFields`), and `mergeAt` is one such application. A field that
is absent behaves like one that holds an empty object (`mergeAt_object`), so inserting a
patch and merging it are one operation.
-/

namespace ClusterTuning.Value

/-- What a place holds after a patch of it. Nothing as the patch empties the place. -/
def mergeAt (old : Option Value) (patch : Value) : Option Value :=
  if patch.isNull then none
  else
    match old with
    | some v => some (mergePatch v patch)
    | none => some (withoutNulls patch)

/-- The values that entries give to a name, in order. -/
def valuesAt (key : String) (entries : List (String × Value)) : List Value :=
  (entries.filter fun entry => entry.1 = key).map Prod.snd

theorem mem_of_mem_valuesAt {key : String} {v : Value} {entries : List (String × Value)}
    (h : v ∈ valuesAt key entries) : (key, v) ∈ entries := by
  obtain ⟨entry, hentry, rfl⟩ := List.mem_map.mp h
  obtain ⟨hmem, hkey⟩ := List.mem_filter.mp hentry
  rw [← of_decide_eq_true hkey]
  exact hmem

/-- In order, a name has one value at most. -/
theorem valuesAt_of_ordered {entries : List (String × Value)} (h : Fields.Ordered entries)
    (key : String) : valuesAt key entries = (Fields.get? key entries).toList := by
  induction entries with
  | nil => rfl
  | cons entry rest ih =>
      obtain ⟨k, v⟩ := entry
      have hrest := ih (Fields.ordered_cons_iff.mp h).2
      by_cases hk : k = key
      · subst hk
        -- names occur once, so the first entry of a name is the only one
        rw [h.get?_tail] at hrest
        simpa [valuesAt, Fields.get?] using hrest
      · simpa [valuesAt, Fields.get?, hk] using hrest

theorem mergeAt_of_isNull {v : Value} (h : v.isNull = true) (old : Option Value) :
    mergeAt old v = none := by
  simp [mergeAt, h]

theorem mergeAt_some {v : Value} (old : Value) (h : v.isNull = false) :
    mergeAt (some old) v = some (mergePatch old v) := by
  simp [mergeAt, h]

theorem mergeAt_none {v : Value} (h : v.isNull = false) :
    mergeAt none v = some (withoutNulls v) := by
  simp [mergeAt, h]

/-- A list as the patch leaves a list. -/
theorem exists_mergeAt_array (old : Option Value) (patch : List Value) :
    ∃ items, mergeAt old (.array patch) = some (.array items) := by
  rcases old with _ | v
  · exact ⟨_, rfl⟩
  · rw [mergeAt_some v rfl]
    cases v with
    | array items =>
        rw [mergePatch]
        split <;> exact ⟨_, rfl⟩
    | _ => exact ⟨_, rfl⟩

theorem foldl_mergeAt_some {patches : List Value} (h : ∀ p ∈ patches, p.isNull = false)
    (old : Value) : patches.foldl mergeAt (some old) = some (patches.foldl mergePatch old) := by
  induction patches generalizing old with
  | nil => rfl
  | cons p rest ih =>
      rw [List.foldl_cons, mergeAt_some old (h p List.mem_cons_self),
        ih fun q hq => h q (List.mem_cons_of_mem _ hq)]
      rfl

/-- A patch with one more entry is the patch of that entry, followed by the others. -/
theorem get?_mergeFields_cons (key name : String) (v : Value)
    (fields rest : List (String × Value)) :
    ∃ changed, mergeFields fields ((name, v) :: rest) = mergeFields changed rest ∧
      Fields.get? key changed =
        if name = key then mergeAt (Fields.get? key fields) v else Fields.get? key fields := by
  refine ⟨_, by rw [mergeFields], ?_⟩
  -- a null takes the field away, and any other value is merged into what is there
  cases hnull : v.isNull with
  | true => simp [Fields.get?_erase, mergeAt_of_isNull hnull]
  | false =>
      cases hold : Fields.get? name fields with
      | none =>
          simp only [Bool.false_eq_true, if_false, Fields.get?_put]
          split
          · rename_i hname
            rw [← hname, hold, mergeAt_none hnull]
          · rfl
      | some old =>
          simp only [Bool.false_eq_true, if_false, Fields.get?_put]
          split
          · rename_i hname
            rw [← hname, hold, mergeAt_some old hnull]
          · rfl

/-- Merging fields acts on each name by itself. -/
theorem get?_mergeFields (key : String) (fields patch : List (String × Value)) :
    Fields.get? key (mergeFields fields patch) =
      (valuesAt key patch).foldl mergeAt (Fields.get? key fields) := by
  induction patch generalizing fields with
  | nil => rfl
  | cons entry rest ih =>
      obtain ⟨name, v⟩ := entry
      obtain ⟨changed, hmerge, hget⟩ := get?_mergeFields_cons key name v fields rest
      rw [hmerge, ih, hget]
      by_cases hname : name = key
      · simp [valuesAt, hname]
      · simp [valuesAt, hname]

/-- Under a name that an ordered patch holds, the result is what its entry makes of the field. -/
theorem get?_mergeFields_of_get? {key : String} {v : Value} {patch : List (String × Value)}
    (hpatch : Fields.Ordered patch) (h : Fields.get? key patch = some v)
    (fields : List (String × Value)) :
    Fields.get? key (mergeFields fields patch) = mergeAt (Fields.get? key fields) v := by
  rw [get?_mergeFields, valuesAt_of_ordered hpatch, h]
  rfl

/-- A name that a patch does not hold keeps what it held. -/
theorem get?_mergeFields_of_get?_eq_none {key : String} {patch : List (String × Value)}
    (hpatch : Fields.Ordered patch) (h : Fields.get? key patch = none)
    (fields : List (String × Value)) :
    Fields.get? key (mergeFields fields patch) = Fields.get? key fields := by
  rw [get?_mergeFields, valuesAt_of_ordered hpatch, h]
  rfl

/-- Two patches of fields in turn are one with the fields of both. -/
theorem mergeFields_append (fields patch more : List (String × Value)) :
    mergeFields fields (patch ++ more) = mergeFields (mergeFields fields patch) more := by
  induction patch generalizing fields with
  | nil => rfl
  | cons entry rest ih =>
      obtain ⟨name, v⟩ := entry
      rw [List.cons_append, mergeFields, mergeFields]
      exact ih _

/-! ### A missing object is an empty one -/

/-- Without nulls a field is what its patch makes where nothing was. -/
theorem get?_fieldsWithoutNulls {fields : List (String × Value)} (h : Fields.Ordered fields)
    (key : String) :
    Fields.get? key (fieldsWithoutNulls fields) = (Fields.get? key fields).bind (mergeAt none) := by
  induction fields with
  | nil => rfl
  | cons field rest ih =>
      obtain ⟨name, v⟩ := field
      have hrest := ih (Fields.ordered_cons_iff.mp h).2
      rw [fieldsWithoutNulls]
      by_cases hname : name = key
      · subst hname
        rw [h.get?_tail] at hrest
        by_cases hnull : v.isNull
        · simpa [Fields.get?, hnull, mergeAt] using hrest
        · simp [Fields.get?, hnull, mergeAt]
      · by_cases hnull : v.isNull
        · simpa [Fields.get?, hnull, hname] using hrest
        · simpa [Fields.get?, hnull, hname] using hrest

/-- Dropping nulls is merging into an object without fields. -/
theorem fieldsWithoutNulls_eq_mergeFields {patch : List (String × Value)}
    (h : IsCanonical (.object patch)) : fieldsWithoutNulls patch = mergeFields [] patch := by
  have hempty : IsCanonical (.object []) := ⟨Fields.ordered_nil, trivial⟩
  have hmerged := isCanonical_mergeFields patch hempty h.2
  have hcopied := isCanonical_withoutNulls (.object patch) h
  refine Fields.eq_of_get?_eq hcopied.1 hmerged.1 ?_
  intro key
  rw [get?_fieldsWithoutNulls h.1, get?_mergeFields, valuesAt_of_ordered h.1]
  cases Fields.get? key patch with
  | none => rfl
  | some v => rfl

/-- The fields of what a place holds. Where it holds no object there are none. -/
def fieldsAt : Option Value → List (String × Value)
  | some (.object fields) => fields
  | _ => []

theorem isCanonical_object_fieldsAt {old : Option Value} (h : ∀ v ∈ old, v.IsCanonical) :
    IsCanonical (.object (fieldsAt old)) := by
  cases old with
  | none => exact ⟨Fields.ordered_nil, trivial⟩
  | some v =>
      cases v with
      | object fields => exact h _ rfl
      | _ => exact ⟨Fields.ordered_nil, trivial⟩

/-- An object as the patch merges into the object that is there, or into an empty one. -/
theorem mergeAt_object {patch : List (String × Value)} (h : IsCanonical (.object patch))
    (old : Option Value) :
    mergeAt old (.object patch) = some (.object (mergeFields (fieldsAt old) patch)) := by
  have hfresh : withoutNulls (.object patch) = .object (mergeFields [] patch) := by
    rw [withoutNulls, fieldsWithoutNulls_eq_mergeFields h]
  cases old with
  | none => exact congrArg some hfresh
  | some v =>
      rw [mergeAt_some v rfl]
      cases v with
      | object fields => rfl
      | _ => exact congrArg some hfresh

end ClusterTuning.Value
