import ClusterTuning.Proofs.Merge.NamedItems
import Mathlib.Data.List.Induction

/-!
# ClusterTuning.Proofs.Merge.Repetition

**Merging a sequence of patches a second time changes nothing.**

Idempotence of one merge is not enough: a later patch may remove, replace or change the
kind of what an earlier one wrote. The argument is on whole sequences. Any sequence is of one
of three shapes (`shape`): all its patches are objects, all are lists of named items, or its
result does not depend on the target at all. In the first two cases the sequence acts name by
name, and what it does at one name is a sequence of smaller patches; in the third there is
nothing to prove.

The condition `namesOnce` cannot be dropped. A list that names an item twice is inserted as
it is, and merging it again puts both of its items into the first one.

## Main statements

* `shape`: the three shapes of a sequence.
* `settles_of_namesOnce`: sequences of patches that name no item twice settle.
-/

namespace ClusterTuning.Value

mutual

/-- Does no list of named items in the value name an item twice? -/
def namesOnce : Value → Bool
  | .array items =>
    (!allNamed items || decide (items.map itemName?).Nodup) && itemsNameOnce items
  | .object fields => fieldsNameOnce fields
  | _ => true

/-- Does no list of named items in any of the items name an item twice? -/
def itemsNameOnce : List Value → Bool
  | [] => true
  | v :: rest => v.namesOnce && itemsNameOnce rest

/-- Does no list of named items in any of the fields name an item twice? -/
def fieldsNameOnce : List (String × Value) → Bool
  | [] => true
  | (_, v) :: rest => v.namesOnce && fieldsNameOnce rest

end

theorem itemsNameOnce_iff {items : List Value} :
    itemsNameOnce items = true ↔ ∀ v ∈ items, v.namesOnce = true := by
  induction items with
  | nil => simp [itemsNameOnce]
  | cons v rest ih => simp [itemsNameOnce, ih]

theorem fieldsNameOnce_iff {fields : List (String × Value)} :
    fieldsNameOnce fields = true ↔ ∀ field ∈ fields, field.2.namesOnce = true := by
  induction fields with
  | nil => simp [fieldsNameOnce]
  | cons field rest ih => simp [fieldsNameOnce, ih]

theorem namesOnce_array_iff {items : List Value} :
    namesOnce (.array items) = true ↔
      (allNamed items = true → (items.map itemName?).Nodup) ∧ itemsNameOnce items = true := by
  rw [namesOnce]
  cases allNamed items <;> simp

/-! ### Sequences that settle -/

/-- Applying the patches a second time changes nothing. -/
def Settles (patches : List Value) : Prop :=
  ∀ old : Option Value, (∀ v ∈ old, v.IsCanonical) →
    patches.foldl mergeAt (patches.foldl mergeAt old) = patches.foldl mergeAt old

theorem settles_nil : Settles [] := fun _ _ => rfl

theorem Settles.foldl_mergePatch {patches : List Value} (h : Settles patches)
    (hnull : ∀ p ∈ patches, p.isNull = false) {v : Value} (hv : v.IsCanonical) :
    patches.foldl mergePatch (patches.foldl mergePatch v) = patches.foldl mergePatch v := by
  have hsome := h (some v) fun w hw => by cases hw; exact hv
  rw [foldl_mergeAt_some hnull, foldl_mergeAt_some hnull] at hsome
  exact Option.some.inj hsome

/-- Patches that settle change nothing when they come again over what they made where nothing was.
-/
theorem Settles.foldl_withoutNulls {p : Value} {patches : List Value}
    (h : Settles (p :: patches)) (hnull : ∀ q ∈ p :: patches, q.isNull = false) :
    (p :: patches).foldl mergePatch (patches.foldl mergePatch (withoutNulls p)) =
      patches.foldl mergePatch (withoutNulls p) := by
  have hnone := h none fun v hv => absurd hv (Option.not_mem_none v)
  have hopened : (p :: patches).foldl mergeAt none =
      some (patches.foldl mergePatch (withoutNulls p)) := by
    rw [List.foldl_cons, mergeAt_none (hnull p List.mem_cons_self),
      foldl_mergeAt_some fun q hq => hnull q (List.mem_cons_of_mem _ hq)]
  rw [hopened, foldl_mergeAt_some hnull] at hnone
  exact Option.some.inj hnone

/-- Entries settle in the fields of an object when they settle at every name. -/
theorem mergeFields_again {fields patch : List (String × Value)}
    (hfields : IsCanonical (.object fields)) (hpatch : FieldsCanonical patch)
    (hsettles : ∀ key, Settles (valuesAt key patch)) :
    mergeFields (mergeFields fields patch) patch = mergeFields fields patch := by
  have honce := isCanonical_mergeFields patch hfields hpatch
  have htwice := isCanonical_mergeFields patch honce hpatch
  refine Fields.eq_of_get?_eq htwice.1 honce.1 ?_
  intro key
  rw [get?_mergeFields, get?_mergeFields]
  exact hsettles key _ fun v hv => hfields.2.of_get? hv

/-- Leaving the items of one name out keeps the others of each name together, so they settle as
before. -/
theorem settles_itemsNotNamed {patch : List Value}
    (h : ∀ name, Settles (itemsNamed name patch)) (other name : String) :
    Settles (itemsNamed name (itemsNotNamed other patch)) := by
  by_cases hname : name = other
  · have hnil : itemsNamed name (itemsNotNamed other patch) = [] := by
      refine List.filter_eq_nil_iff.mpr ?_
      intro v hv
      simpa [hname] using (List.mem_filter.mp hv).2
    rw [hnil]
    exact settles_nil
  · have hsame : itemsNamed name (itemsNotNamed other patch) = itemsNamed name patch := by
      rw [itemsNamed, itemsNotNamed, List.filter_filter]
      refine List.filter_congr ?_
      intro v _
      by_cases hv : v.itemName? = some name
      · simp [hv, hname]
      · simp [hv]
    rw [hsame]
    exact h name

theorem isNull_of_mem_itemsNamed {name : String} {patch : List Value} {p : Value}
    (h : p ∈ itemsNamed name patch) : p.isNull = false :=
  isNull_of_itemName? (itemName?_of_mem_itemsNamed h)

/-- Items settle in an empty list, place by place in the order in which they open them. -/
theorem mergeItems_nil_again : ∀ {patch : List Value}, allNamed patch = true →
    ItemsCanonical patch → (∀ name, Settles (itemsNamed name patch)) →
      mergeItems (mergeItems [] patch) patch = mergeItems [] patch
  | [], _, _, _ => rfl
  | p :: patch, hnamed, hpatch, hsettles => by
      obtain ⟨⟨name, hp⟩, hnamed⟩ := allNamed_cons_iff.mp hnamed
      have hsettled := hsettles name
      rw [itemsNamed_cons_self hp] at hsettled
      have hnull : ∀ q ∈ p :: itemsNamed name patch, q.isNull = false := by
        rw [← itemsNamed_cons_self hp]
        exact fun q hq => isNull_of_mem_itemsNamed hq
      -- the first place, opened by `p` and changed by the later items of its name
      have hfirst := hsettled.foldl_withoutNulls hnull
      have hname : ((itemsNamed name patch).foldl mergePatch (withoutNulls p)).itemName? =
          some name :=
        itemName?_foldl_mergePatch (hpatch.2.filter _)
          (fun q hq => itemName?_of_mem_itemsNamed hq) (itemName?_withoutNulls hpatch.1 hp)
      have hrest : mergeItems (mergeItems [] (itemsNotNamed name patch))
            (itemsNotNamed name patch) = mergeItems [] (itemsNotNamed name patch) := by
        refine mergeItems_nil_again (allNamed_itemsNotNamed hnamed name)
          (hpatch.2.itemsNotNamed name) fun other => ?_
        rw [← itemsNotNamed_cons_self hp]
        exact settles_itemsNotNamed hsettles name other
      rw [mergeItems_nil_cons hp hpatch, mergeItems_cons hname _ hpatch,
        itemsNamed_cons_self hp, itemsNotNamed_cons_self hp, hfirst, hrest]
  termination_by patch => patch.length
  decreasing_by
    simp only [List.length_cons]
    exact Nat.lt_succ_of_le (List.length_filter_le _ _)

/-- Items settle in a list of named items when they settle at every name. -/
theorem mergeItems_again {items patch : List Value} (hitems : ItemsCanonical items)
    (hnamed : allNamed items = true) (hpatch : ItemsCanonical patch)
    (hpnamed : allNamed patch = true) (hsettles : ∀ name, Settles (itemsNamed name patch)) :
    mergeItems (mergeItems items patch) patch = mergeItems items patch := by
  induction items generalizing patch with
  | nil => exact mergeItems_nil_again hpnamed hpatch hsettles
  | cons v rest ih =>
      obtain ⟨⟨name, hv⟩, hnamed⟩ := allNamed_cons_iff.mp hnamed
      have hname : ((itemsNamed name patch).foldl mergePatch v).itemName? = some name :=
        itemName?_foldl_mergePatch (hpatch.filter _)
          (fun q hq => itemName?_of_mem_itemsNamed hq) hv
      have hfirst : (itemsNamed name patch).foldl mergePatch
            ((itemsNamed name patch).foldl mergePatch v) =
          (itemsNamed name patch).foldl mergePatch v :=
        (hsettles name).foldl_mergePatch (fun q hq => isNull_of_mem_itemsNamed hq) hitems.1
      have hrest := ih hitems.2 hnamed (hpatch.itemsNotNamed name)
        (allNamed_itemsNotNamed hpnamed name) fun other =>
          settles_itemsNotNamed hsettles name other
      rw [mergeItems_cons hv rest hpatch, mergeItems_cons hname _ hpatch, hfirst, hrest]

/-! ### Shapes of sequences -/

/-- Objects that are merged in turn are one object with the fields of all. -/
theorem foldl_mergeAt_object (fields : List (String × Value))
    (patches : List (List (String × Value))) :
    (patches.map Value.object).foldl mergeAt (some (.object fields)) =
      some (.object (mergeFields fields patches.flatten)) := by
  induction patches generalizing fields with
  | nil => rfl
  | cons patch rest ih =>
      rw [List.flatten_cons, mergeFields_append]
      exact ih (mergeFields fields patch)

/-- Lists of named items that are merged in turn are one list with the items of all. -/
theorem foldl_mergeAt_array {items : List Value} (hitems : allNamed items = true)
    {patches : List (List Value)} (hpatches : ∀ patch ∈ patches, ItemsCanonical patch)
    (hnamed : ∀ patch ∈ patches, allNamed patch = true) :
    (patches.map Value.array).foldl mergeAt (some (.array items)) =
      some (.array (mergeItems items patches.flatten)) := by
  induction patches generalizing items with
  | nil => rfl
  | cons patch rest ih =>
      have hpatch := hnamed patch List.mem_cons_self
      have hstep : mergeAt (some (.array items)) (.array patch) =
          some (.array (mergeItems items patch)) := by
        rw [mergeAt_some _ rfl, mergePatch, hitems, hpatch, Bool.and_true, if_pos rfl]
      rw [List.flatten_cons, mergeItems_append, List.map_cons, List.foldl_cons, hstep]
      exact ih (allNamed_mergeItems hitems (hpatches patch List.mem_cons_self) hpatch)
        (fun q hq => hpatches q (List.mem_cons_of_mem _ hq))
        (fun q hq => hnamed q (List.mem_cons_of_mem _ hq))

/-- A list of which not all items have names replaces whatever was there. -/
theorem mergeAt_unnamed {patch : List Value} (h : allNamed patch = false) (old : Option Value) :
    mergeAt old (.array patch) = some (withoutNulls (.array patch)) := by
  cases old with
  | none => rfl
  | some v =>
      rw [mergeAt_some v rfl]
      cases v with
      | array items =>
          rw [mergePatch, h, Bool.and_false]
          rfl
      | _ => rfl

theorem exists_foldl_mergeAt_object {objects : List (List (String × Value))}
    (h : objects ≠ []) (old : Option Value) :
    ∃ fields, (objects.map Value.object).foldl mergeAt old = some (.object fields) := by
  rcases List.eq_nil_or_concat' objects with rfl | ⟨front, last, rfl⟩
  · exact absurd rfl h
  · rw [List.map_append, List.map_singleton, List.foldl_concat]
    cases (front.map Value.object).foldl mergeAt old with
    | none => exact ⟨_, rfl⟩
    | some v => cases v <;> exact ⟨_, rfl⟩

theorem exists_foldl_mergeAt_array {lists : List (List Value)} (h : lists ≠ [])
    (old : Option Value) :
    ∃ items, (lists.map Value.array).foldl mergeAt old = some (.array items) := by
  rcases List.eq_nil_or_concat' lists with rfl | ⟨front, last, rfl⟩
  · exact absurd rfl h
  · rw [List.map_append, List.map_singleton, List.foldl_concat]
    exact exists_mergeAt_array _ last

/-- The result of the patches does not depend on what they are merged into. -/
def Constant (patches : List Value) : Prop :=
  ∀ a b : Option Value, patches.foldl mergeAt a = patches.foldl mergeAt b

theorem constant_concat {patches : List Value} {p : Value}
    (h : ∀ a b : Option Value,
      mergeAt (patches.foldl mergeAt a) p = mergeAt (patches.foldl mergeAt b) p) :
    Constant (patches ++ [p]) := by
  intro a b
  rw [List.foldl_concat, List.foldl_concat]
  exact h a b

theorem Constant.concat {patches : List Value} (h : Constant patches) (p : Value) :
    Constant (patches ++ [p]) :=
  constant_concat fun a b => by rw [h a b]

/-- What a sequence of patches is made of. -/
inductive Shape : List Value → Prop where
  /-- All of them are objects. -/
  | objects (objects : List (List (String × Value))) : Shape (objects.map Value.object)
  /-- All of them are lists of named items. -/
  | lists (lists : List (List Value)) (named : ∀ items ∈ lists, allNamed items = true) :
      Shape (lists.map Value.array)
  /-- Whatever they are, one of them replaces all that is there. -/
  | constant {patches : List Value} (constant : Constant patches) : Shape patches

/-- An object joins objects. Behind anything else it replaces what is there. -/
theorem Shape.concat_object {patches : List Value} (h : Shape patches)
    (patch : List (String × Value)) : Shape (patches ++ [.object patch]) := by
  cases h with
  | objects objects =>
      have hmap : objects.map Value.object ++ [.object patch] =
          (objects ++ [patch]).map Value.object := by
        simp
      rw [hmap]
      exact .objects _
  | lists lists named =>
      by_cases hlists : lists = []
      · subst hlists
        exact .objects [patch]
      · -- the lists leave a list whatever was there, and the object replaces it
        refine .constant (constant_concat ?_)
        intro a b
        obtain ⟨x, hx⟩ := exists_foldl_mergeAt_array hlists a
        obtain ⟨y, hy⟩ := exists_foldl_mergeAt_array hlists b
        rw [hx, hy]
        rfl
  | constant h => exact .constant (h.concat _)

/-- A list of named items joins such lists. Behind anything else it replaces what is there. -/
theorem Shape.concat_list {patches : List Value} (h : Shape patches) {patch : List Value}
    (hpatch : allNamed patch = true) : Shape (patches ++ [.array patch]) := by
  cases h with
  | objects objects =>
      by_cases hobjects : objects = []
      · subst hobjects
        exact .lists [patch] (by simpa using hpatch)
      · -- the objects leave an object whatever was there, and the list replaces it
        refine .constant (constant_concat ?_)
        intro a b
        obtain ⟨x, hx⟩ := exists_foldl_mergeAt_object hobjects a
        obtain ⟨y, hy⟩ := exists_foldl_mergeAt_object hobjects b
        rw [hx, hy]
        rfl
  | lists lists named =>
      have hmap : lists.map Value.array ++ [.array patch] =
          (lists ++ [patch]).map Value.array := by
        simp
      rw [hmap]
      refine .lists _ ?_
      intro items hitems
      rcases List.mem_append.mp hitems with hitems | hitems
      · exact named items hitems
      · rw [List.mem_singleton.mp hitems, hpatch]
  | constant h => exact .constant (h.concat _)

/-- Every sequence is of one of the three shapes. The last patch decides: it keeps something of
what is there only where that is of its own kind, which the patches before it decide. -/
theorem shape (patches : List Value) : Shape patches := by
  induction patches using List.reverseRecOn with
  | nil => exact .objects []
  | append_singleton patches p ih =>
      cases p with
      | object patch => exact ih.concat_object patch
      | array patch =>
          cases hpatch : allNamed patch with
          | true => exact ih.concat_list hpatch
          | false =>
              refine .constant (constant_concat ?_)
              intro a b
              rw [mergeAt_unnamed hpatch, mergeAt_unnamed hpatch]
      | _ =>
          refine .constant (constant_concat ?_)
          intro a b
          cases patches.foldl mergeAt a <;> cases patches.foldl mergeAt b <;> rfl

/-! ### All sequences settle -/

/-- What a step of the induction on the size of patches takes for granted. -/
def Merges (p : Value) : Prop :=
  p.IsCanonical ∧ p.namesOnce = true

theorem sizeOf_lt_of_mem_fields {key : String} {v : Value} {fields : List (String × Value)}
    (h : (key, v) ∈ fields) : sizeOf v < sizeOf (Value.object fields) := by
  have hmem := List.sizeOf_lt_of_mem h
  simp only [Prod.mk.sizeOf_spec, Value.object.sizeOf_spec] at hmem ⊢
  omega

theorem sizeOf_lt_of_mem_items {v : Value} {items : List Value} (h : v ∈ items) :
    sizeOf v < sizeOf (Value.array items) := by
  have hmem := List.sizeOf_lt_of_mem h
  simp only [Value.array.sizeOf_spec]
  omega

/-- Objects settle if, for each name, the values that all of them have for it settle in turn. -/
theorem settles_objects {objects : List (List (String × Value))}
    (hobjects : ∀ patch ∈ objects, IsCanonical (.object patch))
    (hsettles : ∀ key, Settles (valuesAt key objects.flatten)) :
    Settles (objects.map Value.object) := by
  cases objects with
  | nil => exact settles_nil
  | cons first rest =>
      intro old hold
      have hrun : ∀ place, ((first :: rest).map Value.object).foldl mergeAt place =
          some (.object (mergeFields (fieldsAt place) (first :: rest).flatten)) := by
        intro place
        rw [List.map_cons, List.foldl_cons, mergeAt_object (hobjects first List.mem_cons_self),
          foldl_mergeAt_object, List.flatten_cons, mergeFields_append]
      rw [hrun, hrun]
      have hflat : FieldsCanonical (first :: rest).flatten := by
        refine fieldsCanonical_iff.mpr ?_
        intro field hfield
        obtain ⟨patch, hpatch, hmem⟩ := List.mem_flatten.mp hfield
        exact fieldsCanonical_iff.mp (hobjects patch hpatch).2 field hmem
      have hagain := mergeFields_again (isCanonical_object_fieldsAt hold) hflat hsettles
      exact congrArg (fun fields => some (Value.object fields)) hagain

/-- Lists of named items settle if, for each name, the items that all of them have of it settle in
turn. The names have to be different within each list, since an item that comes twice is merged into
itself. -/
theorem settles_lists {lists : List (List Value)}
    (hlists : ∀ patch ∈ lists, ItemsCanonical patch)
    (hnamed : ∀ patch ∈ lists, allNamed patch = true)
    (honce : ∀ patch ∈ lists, (patch.map itemName?).Nodup)
    (hsettles : ∀ name, Settles (itemsNamed name lists.flatten)) :
    Settles (lists.map Value.array) := by
  cases lists with
  | nil => exact settles_nil
  | cons first rest =>
      intro old hold
      have hfirst := hlists first List.mem_cons_self
      have hfirstNamed := hnamed first List.mem_cons_self
      have hflat : ItemsCanonical (first :: rest).flatten := by
        refine itemsCanonical_iff.mpr ?_
        intro v hv
        obtain ⟨patch, hpatch, hmem⟩ := List.mem_flatten.mp hv
        exact itemsCanonical_iff.mp (hlists patch hpatch) v hmem
      have hflatNamed : allNamed (first :: rest).flatten = true := by
        refine allNamed_iff.mpr ?_
        intro v hv
        obtain ⟨patch, hpatch, hmem⟩ := List.mem_flatten.mp hv
        exact allNamed_iff.mp (hnamed patch hpatch) v hmem
      -- wherever the lists are merged in turn, they are merged as one list
      have hrun : ∀ place, ((first :: rest).map Value.array).foldl mergeAt place =
          some (.array (mergeItems (itemsAt place) (first :: rest).flatten)) := by
        intro place
        rw [List.map_cons, List.foldl_cons,
          mergeAt_array hfirst hfirstNamed (honce first List.mem_cons_self),
          foldl_mergeAt_array (allNamed_mergeItems (allNamed_itemsAt place) hfirst hfirstNamed)
            (fun q hq => hlists q (List.mem_cons_of_mem _ hq))
            (fun q hq => hnamed q (List.mem_cons_of_mem _ hq)),
          List.flatten_cons, mergeItems_append]
      have hmerged := allNamed_mergeItems (allNamed_itemsAt old) hflat hflatNamed
      rw [hrun, hrun, itemsAt, if_pos hmerged, mergeItems_again (itemsCanonical_itemsAt hold)
        (allNamed_itemsAt old) hflat hflatNamed hsettles]

/-- Patches that name no item twice settle, whatever they do to each other. The induction is
on a bound of their sizes: what happens at one name is a sequence of smaller patches. -/
theorem settles_of_sizeOf_lt (bound : Nat) : ∀ {patches : List Value},
    (∀ p ∈ patches, sizeOf p < bound) → (∀ p ∈ patches, Merges p) → Settles patches := by
  induction bound with
  | zero =>
      intro patches hsize _
      cases patches with
      | nil => exact settles_nil
      | cons p rest => exact absurd (hsize p List.mem_cons_self) (Nat.not_lt_zero _)
  | succ bound ih =>
      intro patches hsize hmerges
      cases shape patches with
      | objects objects =>
          have hobject : ∀ patch ∈ objects, Merges (.object patch) := by
            intro patch hpatch
            exact hmerges _ (List.mem_map_of_mem hpatch)
          refine settles_objects (fun patch hpatch => (hobject patch hpatch).1) ?_
          intro key
          -- the patches of one field are parts of the objects
          refine ih (fun v hv => ?_) fun v hv => ?_
          all_goals
            obtain ⟨patch, hpatch, hmem⟩ := List.mem_flatten.mp (mem_of_mem_valuesAt hv)
          · have hlt := sizeOf_lt_of_mem_fields hmem
            have hle := hsize _ (List.mem_map_of_mem (f := Value.object) hpatch)
            omega
          · have hm := hobject patch hpatch
            exact ⟨fieldsCanonical_iff.mp hm.1.2 _ hmem, fieldsNameOnce_iff.mp hm.2 _ hmem⟩
      | lists lists named =>
          have hlist : ∀ patch ∈ lists, Merges (.array patch) := by
            intro patch hpatch
            exact hmerges _ (List.mem_map_of_mem hpatch)
          have honce : ∀ patch ∈ lists, (patch.map itemName?).Nodup := by
            intro patch hpatch
            exact (namesOnce_array_iff.mp (hlist patch hpatch).2).1 (named patch hpatch)
          refine settles_lists (fun patch hpatch => (hlist patch hpatch).1) named honce ?_
          intro name
          -- the patches of one item are parts of the lists
          refine ih (fun v hv => ?_) fun v hv => ?_
          all_goals
            obtain ⟨patch, hpatch, hmem⟩ := List.mem_flatten.mp (mem_of_mem_itemsNamed hv)
          · have hlt := sizeOf_lt_of_mem_items hmem
            have hle := hsize _ (List.mem_map_of_mem (f := Value.array) hpatch)
            omega
          · have hm := hlist patch hpatch
            exact ⟨itemsCanonical_iff.mp hm.1 v hmem,
              itemsNameOnce_iff.mp (namesOnce_array_iff.mp hm.2).2 v hmem⟩
      | constant h => exact fun old _ => h _ _

/-- Sequences of canonical patches that name no item twice settle. -/
theorem settles_of_namesOnce {patches : List Value} (hcanonical : ∀ p ∈ patches, p.IsCanonical)
    (honce : ∀ p ∈ patches, p.namesOnce = true) : Settles patches := by
  -- no patch is as large as the list of all of them
  exact settles_of_sizeOf_lt (sizeOf patches) (fun p hp => List.sizeOf_lt_of_mem hp)
    fun p hp => ⟨hcanonical p hp, honce p hp⟩

end ClusterTuning.Value
