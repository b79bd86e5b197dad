import ClusterTuning.Proofs.Merge.Fields

/-!
# ClusterTuning.Proofs.Merge.NamedItems

**What merging does to one item of a list of named items.**

The items of the patch that bear the name of the first item go into that item, and all
others go on to the rest of the list (`mergeItems_cons`). Behind the last item the next
item of the patch opens a new place (`mergeItems_nil_cons`). Names stay what they are
throughout, as an item is only ever merged with items of its own name.
-/

namespace ClusterTuning.Value

/-! ### Names of items -/

/-- An item has a name if it is an object whose `name` is a text that is not empty. -/
theorem itemName?_eq_some_iff {v : Value} {name : String} :
    v.itemName? = some name ↔
      name ≠ "" ∧ ∃ fields, v = .object fields ∧
        Fields.get? "name" fields = some (.string name) := by
  rw [itemName?, Option.filter_eq_some_iff, Option.bind_eq_some_iff]
  constructor
  · rintro ⟨⟨held, hheld, htext⟩, hne⟩
    refine ⟨of_decide_eq_true hne, ?_⟩
    cases v with
    | object fields =>
        cases held with
        | string s =>
            cases htext
            exact ⟨fields, rfl, hheld⟩
        | _ => cases htext
    | _ => cases hheld
  · rintro ⟨hne, fields, rfl, hget⟩
    exact ⟨⟨_, hget, rfl⟩, decide_eq_true hne⟩

theorem allNamed_iff {items : List Value} :
    allNamed items = true ↔ ∀ v ∈ items, ∃ name, v.itemName? = some name := by
  simp [allNamed, Option.isSome_iff_exists]

theorem allNamed_cons_iff {v : Value} {rest : List Value} :
    allNamed (v :: rest) = true ↔
      (∃ name, v.itemName? = some name) ∧ allNamed rest = true := by
  simp [allNamed, Option.isSome_iff_exists]

theorem isNull_of_itemName? {v : Value} {name : String} (h : v.itemName? = some name) :
    v.isNull = false := by
  obtain ⟨-, fields, rfl, -⟩ := itemName?_eq_some_iff.mp h
  rfl

theorem itemName?_withoutNulls {v : Value} {name : String} (hv : v.IsCanonical)
    (h : v.itemName? = some name) : (withoutNulls v).itemName? = some name := by
  obtain ⟨hne, fields, rfl, hget⟩ := itemName?_eq_some_iff.mp h
  refine itemName?_eq_some_iff.mpr ⟨hne, fieldsWithoutNulls fields, rfl, ?_⟩
  rw [get?_fieldsWithoutNulls hv.1, hget]
  rfl

/-- Merging an item of the same name keeps the name. -/
theorem itemName?_mergePatch {v p : Value} {name : String} (hp : p.IsCanonical)
    (hv : v.itemName? = some name) (hname : p.itemName? = some name) :
    (mergePatch v p).itemName? = some name := by
  obtain ⟨hne, fields, rfl, hget⟩ := itemName?_eq_some_iff.mp hv
  obtain ⟨-, patch, rfl, hpatch⟩ := itemName?_eq_some_iff.mp hname
  refine itemName?_eq_some_iff.mpr ⟨hne, mergeFields fields patch, rfl, ?_⟩
  rw [get?_mergeFields_of_get? hp.1 hpatch, hget]
  rfl

/-! ### Items of one name -/

/-- The items that bear a name. -/
def itemsNamed (name : String) (items : List Value) : List Value :=
  items.filter fun v => v.itemName? = some name

/-- The items that do not bear a name. -/
def itemsNotNamed (name : String) (items : List Value) : List Value :=
  items.filter fun v => ¬ v.itemName? = some name

theorem itemName?_of_mem_itemsNamed {name : String} {v : Value} {items : List Value}
    (h : v ∈ itemsNamed name items) : v.itemName? = some name :=
  of_decide_eq_true (List.mem_filter.mp h).2

theorem mem_of_mem_itemsNamed {name : String} {v : Value} {items : List Value}
    (h : v ∈ itemsNamed name items) : v ∈ items :=
  List.mem_of_mem_filter h

theorem mem_of_mem_itemsNotNamed {name : String} {v : Value} {items : List Value}
    (h : v ∈ itemsNotNamed name items) : v ∈ items :=
  List.mem_of_mem_filter h

theorem itemsNamed_cons_self {name : String} {p : Value} (h : p.itemName? = some name)
    (items : List Value) : itemsNamed name (p :: items) = p :: itemsNamed name items :=
  List.filter_cons_of_pos (decide_eq_true h)

theorem itemsNamed_cons_of_ne {name : String} {p : Value} (h : p.itemName? ≠ some name)
    (items : List Value) : itemsNamed name (p :: items) = itemsNamed name items :=
  List.filter_cons_of_neg (by simpa using h)

theorem itemsNotNamed_cons_self {name : String} {p : Value} (h : p.itemName? = some name)
    (items : List Value) : itemsNotNamed name (p :: items) = itemsNotNamed name items :=
  List.filter_cons_of_neg (by simpa using h)

theorem itemsNotNamed_cons_of_ne {name : String} {p : Value} (h : p.itemName? ≠ some name)
    (items : List Value) : itemsNotNamed name (p :: items) = p :: itemsNotNamed name items :=
  List.filter_cons_of_pos (by simpa using h)

theorem itemName?_foldl_mergePatch {name : String} {patch : List Value}
    (hpatch : ItemsCanonical patch) (hname : ∀ p ∈ patch, p.itemName? = some name)
    {v : Value} (hv : v.itemName? = some name) :
    (patch.foldl mergePatch v).itemName? = some name := by
  induction patch generalizing v with
  | nil => exact hv
  | cons p rest ih =>
      exact ih hpatch.2 (fun q hq => hname q (List.mem_cons_of_mem _ hq))
        (itemName?_mergePatch hpatch.1 hv (hname p List.mem_cons_self))

theorem ItemsCanonical.filter {items : List Value} (h : ItemsCanonical items)
    (keep : Value → Bool) : ItemsCanonical (items.filter keep) :=
  itemsCanonical_iff.mpr fun v hv => itemsCanonical_iff.mp h v (List.mem_of_mem_filter hv)

theorem ItemsCanonical.itemsNotNamed {patch : List Value} (h : ItemsCanonical patch)
    (name : String) : ItemsCanonical (itemsNotNamed name patch) :=
  h.filter _

theorem allNamed_itemsNotNamed {patch : List Value} (h : allNamed patch = true) (name : String) :
    allNamed (itemsNotNamed name patch) = true :=
  allNamed_iff.mpr fun p hp => allNamed_iff.mp h p (mem_of_mem_itemsNotNamed hp)

/-! ### Merging item by item -/

/-- The first item takes the patches of its name, and the rest of the list takes the others. -/
theorem mergeItems_cons {name : String} {v : Value} (hv : v.itemName? = some name)
    (rest : List Value) {patch : List Value} (hpatch : ItemsCanonical patch) :
    mergeItems (v :: rest) patch =
      (itemsNamed name patch).foldl mergePatch v :: mergeItems rest (itemsNotNamed name patch) := by
  induction patch generalizing v rest with
  | nil => rfl
  | cons p patch ih =>
      rw [mergeItems, changeNamed]
      by_cases hp : p.itemName? = some name
      · rw [if_pos (hv.trans hp.symm), itemsNamed_cons_self hp, itemsNotNamed_cons_self hp,
          List.foldl_cons]
        exact ih (itemName?_mergePatch hpatch.1 hv hp) rest hpatch.2
      · rw [if_neg fun h => hp (h.symm.trans hv), itemsNamed_cons_of_ne hp,
          itemsNotNamed_cons_of_ne hp, mergeItems]
        exact ih hv _ hpatch.2

/-- Behind the last item a patch opens a new place, which takes the later patches of its name. -/
theorem mergeItems_nil_cons {name : String} {p : Value} (hp : p.itemName? = some name)
    {patch : List Value} (hpatch : ItemsCanonical (p :: patch)) :
    mergeItems [] (p :: patch) =
      (itemsNamed name patch).foldl mergePatch (withoutNulls p) ::
        mergeItems [] (itemsNotNamed name patch) := by
  rw [mergeItems, changeNamed]
  exact mergeItems_cons (itemName?_withoutNulls hpatch.1 hp) [] hpatch.2

theorem mergeItems_append (items patch more : List Value) :
    mergeItems items (patch ++ more) = mergeItems (mergeItems items patch) more := by
  induction patch generalizing items with
  | nil => rfl
  | cons p rest ih =>
      rw [List.cons_append, mergeItems, mergeItems]
      exact ih _

/-- All items have names after those of a name were changed, if the change and the fresh item keep
to the name. -/
theorem allNamed_changeNamed {name : Option String} {change : Value → Value} {fresh : Value}
    (hchange : ∀ v : Value, v.itemName? = name → (change v).itemName? = name)
    (hfresh : fresh.itemName? = name) (hname : name.isSome = true) {items : List Value}
    (h : allNamed items = true) : allNamed (changeNamed name change fresh items) = true := by
  induction items with
  | nil => simp [changeNamed, allNamed, hfresh, hname]
  | cons v rest ih =>
      obtain ⟨hv, hrest⟩ := allNamed_cons_iff.mp h
      rw [changeNamed]
      split
      · rename_i hsame
        refine allNamed_cons_iff.mpr ⟨?_, hrest⟩
        rw [hchange v hsame]
        exact Option.isSome_iff_exists.mp hname
      · exact allNamed_cons_iff.mpr ⟨hv, ih hrest⟩

theorem allNamed_mergeItems {items patch : List Value} (h : allNamed items = true)
    (hpatch : ItemsCanonical patch) (hnamed : allNamed patch = true) :
    allNamed (mergeItems items patch) = true := by
  induction patch generalizing items with
  | nil => exact h
  | cons p rest ih =>
      obtain ⟨⟨name, hp⟩, hrest⟩ := allNamed_cons_iff.mp hnamed
      rw [mergeItems]
      refine ih ?_ hpatch.2 hrest
      refine allNamed_changeNamed (fun v hv => ?_) ?_ (Option.isSome_of_eq_some hp) h
      · rw [hp] at hv ⊢
        exact itemName?_mergePatch hpatch.1 hv hp
      · rw [hp]
        exact itemName?_withoutNulls hpatch.1 hp

/-! ### A missing list is an empty one -/

/-- For items with different names, dropping nulls is merging into an empty list. -/
theorem itemsWithoutNulls_eq_mergeItems {patch : List Value} (hpatch : ItemsCanonical patch)
    (hnamed : allNamed patch = true) (honce : (patch.map itemName?).Nodup) :
    itemsWithoutNulls patch = mergeItems [] patch := by
  induction patch with
  | nil => rfl
  | cons p rest ih =>
      obtain ⟨⟨name, hp⟩, hrest⟩ := allNamed_cons_iff.mp hnamed
      obtain ⟨hfresh, honce⟩ := List.nodup_cons.mp honce
      have hother : ∀ q ∈ rest, q.itemName? ≠ some name := fun q hq hname =>
        hfresh (List.mem_map.mpr ⟨q, hq, hname.trans hp.symm⟩)
      have hnone : itemsNamed name rest = [] :=
        List.filter_eq_nil_iff.mpr fun q hq => by simpa using hother q hq
      have hall : itemsNotNamed name rest = rest :=
        List.filter_eq_self.mpr fun q hq => by simpa using hother q hq
      rw [mergeItems_nil_cons hp hpatch, hnone, hall, itemsWithoutNulls,
        ih hpatch.2 hrest honce]
      rfl

/-- The named items of what a place holds. Where it holds no list of them there are none. -/
def itemsAt : Option Value → List Value
  | some (.array items) => if allNamed items then items else []
  | _ => []

theorem itemsCanonical_itemsAt {old : Option Value} (h : ∀ v ∈ old, v.IsCanonical) :
    ItemsCanonical (itemsAt old) := by
  cases old with
  | none => trivial
  | some v =>
      cases v with
      | array items =>
          rw [itemsAt]
          split
          · exact h _ rfl
          · trivial
      | _ => trivial

theorem allNamed_itemsAt (old : Option Value) : allNamed (itemsAt old) = true := by
  cases old with
  | none => rfl
  | some v =>
      cases v with
      | array items =>
          rw [itemsAt]
          split
          · assumption
          · rfl
      | _ => rfl

/-- Named items as the patch merge into the named items that are there, or into none. -/
theorem mergeAt_array {patch : List Value} (hpatch : ItemsCanonical patch)
    (hnamed : allNamed patch = true) (honce : (patch.map itemName?).Nodup)
    (old : Option Value) :
    mergeAt old (.array patch) = some (.array (mergeItems (itemsAt old) patch)) := by
  have hfresh : withoutNulls (.array patch) = .array (mergeItems [] patch) := by
    rw [withoutNulls, itemsWithoutNulls_eq_mergeItems hpatch hnamed honce]
  cases old with
  | none => exact congrArg some hfresh
  | some v =>
      rw [mergeAt_some v rfl]
      cases v with
      | array items =>
          rw [mergePatch, itemsAt, hnamed, Bool.and_true]
          split
          · rfl
          · exact congrArg some hfresh
      | _ => exact congrArg some hfresh

end ClusterTuning.Value
