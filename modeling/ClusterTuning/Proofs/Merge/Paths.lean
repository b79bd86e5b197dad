import ClusterTuning.Proofs.Merge.Fields
import ClusterTuning.Proofs.Position

/-!
# ClusterTuning.Proofs.Merge.Paths

**What merging does at the end of a path of names.**

Whatever a patch holds at the end of a path, the result holds there what merging this alone makes
of what stood there (`under?_mergeAt`). A patch gets into the result by two routes, merged into
what is there or copied without its nulls where there is nothing. Both are `mergeAt`, so that one
induction along the path does for them, and the other two cases follow from it: a path that leaves
the patch at an object goes on in the target, and one that leaves it at anything else leads nowhere.

No route leaves a field with nothing in it, so a target without such fields is never given one
(`nullFree_mergePatch`).

## Main statements

* `under?_mergeAt`: what a place holds at the end of a path that the patch goes along.
* `mergePatch_paths`: what the result holds at the end of any path.
-/

namespace ClusterTuning.Value

/-! ### One step -/

theorem get?_fieldsAt (old : Option Value) (key : String) :
    Fields.get? key (fieldsAt old) = old.bind (get? key) := by
  rcases old with _ | v
  · rfl
  · cases v <;> rfl

variable {key : String} {patch : List (String × Value)}

/-- Behind a name that an object as the patch holds stands what its entry makes of the field. -/
theorem get?_mergeAt_of_get? (h : IsCanonical (.object patch)) {v : Value}
    (hget : Fields.get? key patch = some v) (old : Option Value) :
    (mergeAt old (.object patch)).bind (get? key) = mergeAt (old.bind (get? key)) v := by
  rw [mergeAt_object h, Option.bind_some, get?_object, get?_mergeFields_of_get? h.1 hget,
    get?_fieldsAt]

/-- Behind a name that an object as the patch lacks stands what stood there. -/
theorem get?_mergeAt_of_get?_eq_none (h : IsCanonical (.object patch))
    (hget : Fields.get? key patch = none) (old : Option Value) :
    (mergeAt old (.object patch)).bind (get? key) = old.bind (get? key) := by
  rw [mergeAt_object h, Option.bind_some, get?_object,
    get?_mergeFields_of_get?_eq_none h.1 hget, get?_fieldsAt]

theorem mergeAt_of_isScalar {v : Value} (h : v.IsScalar) (old : Option Value) :
    mergeAt old v = some v := by
  rcases h with ⟨_, rfl⟩ | ⟨_, rfl⟩ | ⟨_, rfl⟩ <;> cases old <;> rfl

/-- Behind the names of what is no object stands nothing. -/
theorem get?_mergeAt_of_not_object {p : Value} (h : p.isObject = false) (old : Option Value)
    (key : String) : (mergeAt old p).bind (get? key) = none := by
  cases p with
  | null => rfl
  | array patch =>
      obtain ⟨items, hitems⟩ := exists_mergeAt_array old patch
      rw [hitems]
      rfl
  | object patch => cases h
  | _ =>
      rw [mergeAt_of_isScalar (by simp [IsScalar])]
      rfl

/-! ### Along a path -/

/-- Where a patch holds something, the place holds what this makes of what stood there. -/
theorem under?_mergeAt {p v : Value} {path : List String} (hp : p.IsCanonical)
    (h : p.under? path = some v) (old : Option Value) :
    (mergeAt old p).bind (under? path) = mergeAt (old.bind (under? path)) v := by
  induction path generalizing p old with
  | nil =>
      cases h
      rw [bind_under?_nil, bind_under?_nil]
  | cons key path ih =>
      rw [under?_cons, Option.bind_eq_some_iff] at h
      obtain ⟨w, hw, hv⟩ := h
      cases p with
      | object patch =>
          -- the first name leads the patch to `w`, and its target to what `w` is merged into
          rw [bind_under?_cons, bind_under?_cons, get?_mergeAt_of_get? hp hw]
          exact ih (hp.2.of_get? hw) hv _
      | _ => cases hw

/-- A path that leaves the patch at an object leads to what stood there. -/
theorem under?_mergeAt_of_lacking {p : Value} {front : List String} {key : String}
    {fields : List (String × Value)} (hp : p.IsCanonical)
    (hfront : p.under? front = some (.object fields)) (hkey : Fields.get? key fields = none)
    (back : List String) (old : Option Value) :
    (mergeAt old p).bind (under? (front ++ key :: back)) =
      old.bind (under? (front ++ key :: back)) := by
  have hfields : IsCanonical (.object fields) := hp.under? hfront
  rw [bind_under?_append, bind_under?_append, bind_under?_cons, bind_under?_cons,
    under?_mergeAt hp hfront, get?_mergeAt_of_get?_eq_none hfields hkey]

/-- A path that leaves the patch at anything else leads nowhere. -/
theorem under?_mergeAt_of_not_object {p v : Value} {front : List String} (hp : p.IsCanonical)
    (hfront : p.under? front = some v) (hv : v.isObject = false) (key : String)
    (back : List String) (old : Option Value) :
    (mergeAt old p).bind (under? (front ++ key :: back)) = none := by
  rw [bind_under?_append, bind_under?_cons, under?_mergeAt hp hfront,
    get?_mergeAt_of_not_object hv, Option.bind_none]

/-- A path goes along the patch to its end, or there is a name on it that leads nowhere. -/
theorem under?_forms (p : Value) (path : List String) :
    (∃ v, p.under? path = some v) ∨ ∃ front key back v, path = front ++ key :: back ∧
      p.under? front = some v ∧ v.get? key = none := by
  induction path generalizing p with
  | nil => exact .inl ⟨p, rfl⟩
  | cons key path ih =>
      cases hkey : p.get? key with
      | none => exact .inr ⟨[], key, path, p, rfl, rfl, hkey⟩
      | some w =>
          rcases ih w with ⟨v, hv⟩ | ⟨front, other, back, v, rfl, hfront, hother⟩
          · exact .inl ⟨v, by rw [under?_cons, hkey, Option.bind_some, hv]⟩
          · refine .inr ⟨key :: front, other, back, v, rfl, ?_, hother⟩
            rw [under?_cons, hkey, Option.bind_some, hfront]

/-- Only at its root does a merge leave something else than the place does. -/
theorem under?_mergePatch (t p : Value) {path : List String} (h : path ≠ []) :
    (mergePatch t p).under? path = (mergeAt (some t) p).bind (under? path) := by
  cases path with
  | nil => exact absurd rfl h
  | cons key path =>
      cases p with
      | null => rfl
      | _ =>
          rw [mergeAt_some t rfl]
          rfl

/-! ### Fields that hold nothing -/

mutual

/-- Does no field of an object in the value hold nothing? -/
def nullFree : Value → Bool
  | .array items => itemsNullFree items
  | .object fields => fieldsNullFree fields
  | _ => true

/-- Does no field of an object in any of the items hold nothing? -/
def itemsNullFree : List Value → Bool
  | [] => true
  | v :: rest => v.nullFree && itemsNullFree rest

/-- Does none of the fields hold nothing, nor a field of an object in any of them? -/
def fieldsNullFree : List (String × Value) → Bool
  | [] => true
  | (_, v) :: rest => !v.isNull && v.nullFree && fieldsNullFree rest

end

theorem itemsNullFree_iff {items : List Value} :
    itemsNullFree items = true ↔ ∀ v ∈ items, v.nullFree = true := by
  induction items with
  | nil => simp [itemsNullFree]
  | cons v rest ih => simp [itemsNullFree, ih]

theorem fieldsNullFree_iff {fields : List (String × Value)} :
    fieldsNullFree fields = true ↔
      ∀ field ∈ fields, field.2.isNull = false ∧ field.2.nullFree = true := by
  induction fields with
  | nil => simp [fieldsNullFree]
  | cons field rest ih => simp [fieldsNullFree, ih, and_assoc]

theorem isNull_withoutNulls (v : Value) : v.withoutNulls.isNull = v.isNull := by
  cases v <;> rfl

theorem isNull_mergePatch (t : Value) {p : Value} (h : p.isNull = false) :
    (mergePatch t p).isNull = false := by
  cases p with
  | null => cases h
  | object patch => cases t <;> rfl
  | array patch =>
      cases t with
      | array items =>
          rw [mergePatch]
          split <;> rfl
      | _ => rfl
  | _ => rfl

mutual

theorem nullFree_withoutNulls : ∀ v : Value, v.withoutNulls.nullFree = true
  | .null | .bool _ | .number _ | .string _ => rfl
  | .array items => itemsNullFree_withoutNulls items
  | .object fields => fieldsNullFree_withoutNulls fields

theorem itemsNullFree_withoutNulls : ∀ items : List Value,
    itemsNullFree (itemsWithoutNulls items) = true
  | [] => rfl
  | v :: rest => by
      rw [itemsWithoutNulls, itemsNullFree, nullFree_withoutNulls v,
        itemsNullFree_withoutNulls rest, Bool.and_true]

theorem fieldsNullFree_withoutNulls : ∀ fields : List (String × Value),
    fieldsNullFree (fieldsWithoutNulls fields) = true
  | [] => rfl
  | (key, v) :: rest => by
      rw [fieldsWithoutNulls]
      split
      · exact fieldsNullFree_withoutNulls rest
      · rename_i hv
        rw [fieldsNullFree, isNull_withoutNulls, Bool.eq_false_iff.mpr hv, nullFree_withoutNulls v,
          fieldsNullFree_withoutNulls rest]
        rfl

end

/-- An item of a changed list is the fresh one, one that was there, or one that was there and is
changed. -/
theorem mem_changeNamed {name : Option String} {change : Value → Value} {fresh v : Value}
    {items : List Value} (h : v ∈ changeNamed name change fresh items) :
    v = fresh ∨ v ∈ items ∨ ∃ w ∈ items, v = change w := by
  induction items with
  | nil => exact .inl (List.mem_singleton.mp h)
  | cons item rest ih =>
      rw [changeNamed] at h
      split at h
      · rcases List.mem_cons.mp h with rfl | h
        · exact .inr (.inr ⟨item, List.mem_cons_self, rfl⟩)
        · exact .inr (.inl (List.mem_cons_of_mem _ h))
      · rcases List.mem_cons.mp h with rfl | h
        · exact .inr (.inl List.mem_cons_self)
        · rcases ih h with rfl | h | ⟨w, hw, rfl⟩
          · exact .inl rfl
          · exact .inr (.inl (List.mem_cons_of_mem _ h))
          · exact .inr (.inr ⟨w, List.mem_cons_of_mem _ hw, rfl⟩)

theorem itemsNullFree_changeNamed {name : Option String} {change : Value → Value} {fresh : Value}
    (hchange : ∀ v : Value, v.nullFree = true → (change v).nullFree = true)
    (hfresh : fresh.nullFree = true) {items : List Value} (h : itemsNullFree items = true) :
    itemsNullFree (changeNamed name change fresh items) = true := by
  rw [itemsNullFree_iff] at h ⊢
  intro v hv
  rcases mem_changeNamed hv with rfl | hv | ⟨w, hw, rfl⟩
  · exact hfresh
  · exact h v hv
  · exact hchange w (h w hw)

theorem fieldsNullFree_put {fields : List (String × Value)} (h : fieldsNullFree fields = true)
    (key : String) {v : Value} (hnull : v.isNull = false) (hv : v.nullFree = true) :
    fieldsNullFree (Fields.put key v fields) = true := by
  rw [fieldsNullFree_iff] at h ⊢
  intro field hfield
  rcases Fields.mem_put hfield with rfl | hfield
  · exact ⟨hnull, hv⟩
  · exact h field hfield

theorem fieldsNullFree_erase {fields : List (String × Value)} (h : fieldsNullFree fields = true)
    (key : String) : fieldsNullFree (Fields.erase key fields) = true := by
  rw [fieldsNullFree_iff] at h ⊢
  intro field hfield
  exact h field (List.mem_of_mem_filter hfield)

mutual

/-- Merging gives no field that holds nothing to a value without any. -/
theorem nullFree_mergePatch : ∀ (patch : Value) {target : Value},
    target.nullFree = true → (mergePatch target patch).nullFree = true
  | .null, _, _ | .bool _, _, _ | .number _, _, _ | .string _, _, _ => by
      simp [mergePatch, nullFree]
  | .array patch, target, ht => by
      cases target with
      | array items =>
          rw [mergePatch]
          split
          · exact itemsNullFree_mergeItems patch ht
          · exact nullFree_withoutNulls (.array patch)
      | _ => exact nullFree_withoutNulls (.array patch)
  | .object patch, target, ht => by
      cases target with
      | object fields => exact fieldsNullFree_mergeFields patch ht
      | _ => exact nullFree_withoutNulls (.object patch)

theorem itemsNullFree_mergeItems : ∀ (patch : List Value) {items : List Value},
    itemsNullFree items = true → itemsNullFree (mergeItems items patch) = true
  | [], _, h => h
  | v :: rest, _, h => by
      rw [mergeItems]
      exact itemsNullFree_mergeItems rest (itemsNullFree_changeNamed
        (fun old hold => nullFree_mergePatch v hold) (nullFree_withoutNulls v) h)

/-- Merging fields into fields without nulls puts none in, since a null takes its field away. -/
theorem fieldsNullFree_mergeFields : ∀ (patch : List (String × Value))
    {fields : List (String × Value)},
    fieldsNullFree fields = true → fieldsNullFree (mergeFields fields patch) = true
  | [], _, h => h
  | (key, v) :: rest, fields, h => by
      rw [mergeFields]
      refine fieldsNullFree_mergeFields rest ?_
      split
      · exact fieldsNullFree_erase h key
      · rename_i hv
        have hnull := Bool.eq_false_iff.mpr hv
        split
        · rename_i old hold
          have hfree := (fieldsNullFree_iff.mp h _ (Fields.mem_of_get? hold)).2
          exact fieldsNullFree_put h key (isNull_mergePatch old hnull)
            (nullFree_mergePatch v hfree)
        · have hcopied : v.withoutNulls.isNull = false := by rw [isNull_withoutNulls, hnull]
          exact fieldsNullFree_put h key hcopied (nullFree_withoutNulls v)

end

/-! ### The result of a merge -/

/-- What the result of a merge holds at the end of a path of names that is not empty.

A patch that is an object all the way and holds nothing at the end of the path empties it, and a
text, a number or a truth value there replaces what stood there, whatever it was. An object leaves
an object there and a list leaves a list. Where a name of the path is lacking in an object of the
patch, the target decides alone, and where the patch is anything but an object before the path
ends, there is nothing at its end. These are all the ways in which a path can go through a patch.

A target without fields that hold nothing is not given any. -/
theorem mergePatch_paths {t p : Value} (hp : p.IsCanonical) :
    (∀ path : List String, path ≠ [] →
      (p.under? path = some .null → (mergePatch t p).under? path = none) ∧
      (∀ v : Value, p.under? path = some v → v.IsScalar →
        (mergePatch t p).under? path = some v) ∧
      (∀ fields, p.under? path = some (.object fields) →
        ∃ merged, (mergePatch t p).under? path = some (.object merged)) ∧
      (∀ items, p.under? path = some (.array items) →
        ∃ merged, (mergePatch t p).under? path = some (.array merged)) ∧
      (∀ front key back fields, path = front ++ key :: back →
        p.under? front = some (.object fields) → Fields.get? key fields = none →
          (mergePatch t p).under? path = t.under? path) ∧
      (∀ front key back v, path = front ++ key :: back →
        p.under? front = some v → v.isObject = false → (mergePatch t p).under? path = none) ∧
      ((∃ v, p.under? path = some v) ∨
        ∃ front key back v, path = front ++ key :: back ∧ p.under? front = some v ∧
          v.get? key = none)) ∧
    (t.nullFree = true → (mergePatch t p).nullFree = true) := by
  refine ⟨fun path hpath => ?_, nullFree_mergePatch p⟩
  rw [under?_mergePatch t p hpath]
  refine ⟨?_, ?_, ?_, ?_, ?_, ?_, under?_forms p path⟩
  · intro h
    exact under?_mergeAt hp h (some t)
  · intro v h hv
    rw [under?_mergeAt hp h, mergeAt_of_isScalar hv]
  · intro fields h
    rw [under?_mergeAt hp h, mergeAt_object (hp.under? h)]
    exact ⟨_, rfl⟩
  · intro items h
    rw [under?_mergeAt hp h]
    exact exists_mergeAt_array _ items
  · rintro front key back fields rfl h hkey
    exact under?_mergeAt_of_lacking hp h hkey back (some t)
  · rintro front key back v rfl h hv
    exact under?_mergeAt_of_not_object hp h hv key back (some t)

/-- A patch that removes one field, sets another one and says nothing about a third. -/
theorem mergePatch_paths_limits :
    let t : Value := .object [("a", .number (.int 1)),
      ("b", .object [("c", .number (.int 2)), ("d", .number (.int 3))])]
    let p : Value := .object [("a", .null), ("b", .object [("c", .string "5")])]
    (mergePatch t p).under? ["a"] = none ∧
      (mergePatch t p).under? ["b", "c"] = some (.string "5") ∧
      (mergePatch t p).under? ["b", "d"] = t.under? ["b", "d"] ∧
      (mergePatch t p).nullFree = true := by
  intro t p
  have hcanonical : p.canonical = p := by decide +kernel
  have hp : p.IsCanonical := hcanonical ▸ isCanonical_canonical p
  obtain ⟨hpaths, hfree⟩ := mergePatch_paths (t := t) hp
  refine ⟨(hpaths ["a"] (by simp)).1 rfl, ?_, ?_, hfree rfl⟩
  · exact (hpaths ["b", "c"] (by simp)).2.1 _ rfl (.inr (.inr ⟨"5", rfl⟩))
  · exact (hpaths ["b", "d"] (by simp)).2.2.2.2.1 ["b"] "d" [] _ rfl rfl rfl

end ClusterTuning.Value
