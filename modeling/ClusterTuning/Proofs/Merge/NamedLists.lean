import ClusterTuning.Proofs.Merge.NamedItems
import ClusterTuning.Proofs.Names

/-!
# ClusterTuning.Proofs.Merge.NamedLists

**What merging does to a list of named items as a whole.**

The items that are there keep their places and names, and the names that only the patch bears
follow them, each once, in the order in which they first occur (`names_mergeItems`). The list grows
while it is searched, so a later item of the patch may go into an item that an earlier one has
appended. `mergeItems_cons` takes this apart name by name: all that the patch holds for a name goes
to one place, and the inductions below run over the items that are there
(`getElem?_mergeItems`) and then over the patch, which loses at least one item with each name that
it adds (`mergeItems_nil`).

## Main statements

* `getElem?_mergeItems`, `drop_mergeItems`: what stands at each place of a merged list.
* `mergePatch_namedLists`: the law of merging named lists.
-/

namespace ClusterTuning.Value

/-! ### Names that a patch adds -/

/-- The names that a patch bears and the items do not, each once, in the order in which they
first occur in the patch. -/
def newNames (items patch : List Value) : List String :=
  ((patch.filterMap itemName?).filter fun name => some name ∉ items.map itemName?).eraseDups

theorem mem_newNames {items patch : List Value} {name : String} :
    name ∈ newNames items patch ↔
      (∃ p ∈ patch, p.itemName? = some name) ∧ ∀ v ∈ items, v.itemName? ≠ some name := by
  simp [newNames, List.mem_eraseDups, List.mem_filterMap]

/-- New names stand in the order in which the patch first has them. -/
theorem pairwise_newNames (items patch : List Value) :
    (newNames items patch).Pairwise fun a b =>
      (patch.filterMap itemName?).idxOf a < (patch.filterMap itemName?).idxOf b := by
  refine (pairwise_idxOf_eraseDups _).imp_of_mem fun {a b} ha hb h => ?_
  have hmem : ∀ name ∈ newNames items patch,
      decide (some name ∉ items.map itemName?) = true := fun name hname =>
    (List.mem_filter.mp (List.mem_eraseDups.mp hname)).2
  exact idxOf_lt_of_idxOf_filter_lt (hmem a ha) (hmem b hb) h

theorem nodup_newNames (items patch : List Value) : (newNames items patch).Nodup := by
  refine (pairwise_newNames items patch).imp fun {a b} h heq => ?_
  rw [heq] at h
  omega

/-- Without the items of a name, a list bears the names that are left without this one. -/
theorem filterMap_itemsNotNamed (name : String) (patch : List Value) :
    (itemsNotNamed name patch).filterMap itemName? =
      (patch.filterMap itemName?).filter fun other => !other == name := by
  induction patch with
  | nil => rfl
  | cons p rest ih =>
      by_cases hp : p.itemName? = some name
      · rw [itemsNotNamed_cons_self hp, ih]
        simp [hp]
      · rw [itemsNotNamed_cons_of_ne hp]
        cases hother : p.itemName? with
        | none => simpa [hother] using ih
        | some other =>
            have hne : other ≠ name := fun heq => hp (heq ▸ hother)
            simpa [hother, hne] using ih

/-- What is new behind a first item is what is new to the others, once the items of its name are
left out of the patch. -/
theorem newNames_cons {name : String} {v : Value} (hv : v.itemName? = some name)
    (items patch : List Value) :
    newNames (v :: items) patch = newNames items (itemsNotNamed name patch) := by
  rw [newNames, newNames, filterMap_itemsNotNamed, List.filter_filter]
  congr 2
  funext other
  by_cases h : other = name
  · simp [hv, h]
  · simp [hv, h]

theorem ne_of_mem_newNames {items patch : List Value} {name other : String}
    (h : other ∈ newNames items (itemsNotNamed name patch)) : other ≠ name := by
  obtain ⟨⟨p, hp, hname⟩, -⟩ := mem_newNames.mp h
  rintro rfl
  exact of_decide_eq_true (List.mem_filter.mp hp).2 hname

theorem newNames_nil_cons {name : String} {p : Value} (hp : p.itemName? = some name)
    (patch : List Value) :
    newNames [] (p :: patch) = name :: newNames [] (itemsNotNamed name patch) := by
  simp [newNames, hp, List.eraseDups_cons, filterMap_itemsNotNamed]

/-! ### The places of a merged list -/

/-- A new item is what its name makes of an empty object. -/
theorem withoutNulls_eq_mergePatch {p : Value} {name : String} (hp : p.IsCanonical)
    (hname : p.itemName? = some name) : withoutNulls p = mergePatch (.object []) p := by
  obtain ⟨-, fields, rfl, -⟩ := itemName?_eq_some_iff.mp hname
  rw [withoutNulls, mergePatch, fieldsWithoutNulls_eq_mergeFields hp]

theorem itemsNamed_itemsNotNamed {name other : String} (h : other ≠ name) (patch : List Value) :
    itemsNamed other (itemsNotNamed name patch) = itemsNamed other patch := by
  rw [itemsNamed, itemsNotNamed, List.filter_filter, itemsNamed]
  refine List.filter_congr fun v hv => ?_
  by_cases hother : v.itemName? = some other
  · simp [hother, h]
  · simp [hother]

theorem itemsNamed_itemsNotNamed_self (name : String) (patch : List Value) :
    itemsNamed name (itemsNotNamed name patch) = [] := by
  simp [itemsNamed, itemsNotNamed]

/-- What a patch makes of no items: one for each of its names. -/
theorem mergeItems_nil {patch : List Value} (hpatch : ItemsCanonical patch)
    (hnamed : allNamed patch = true) :
    mergeItems [] patch = (newNames [] patch).map fun name =>
      (itemsNamed name patch).foldl mergePatch (.object []) := by
  match patch with
  | [] => rfl
  | p :: rest =>
      obtain ⟨⟨name, hp⟩, hrest⟩ := allNamed_cons_iff.mp hnamed
      rw [mergeItems_nil_cons hp hpatch, newNames_nil_cons hp, List.map_cons,
        mergeItems_nil (hpatch.2.itemsNotNamed name) (allNamed_itemsNotNamed hrest name)]
      congr 1
      · rw [itemsNamed_cons_self hp, List.foldl_cons, withoutNulls_eq_mergePatch hpatch.1 hp]
      · refine List.map_congr_left fun other hother => ?_
        have hne := ne_of_mem_newNames hother
        have hp' : p.itemName? ≠ some other := fun h => hne (Option.some.inj (h.symm.trans hp))
        rw [itemsNamed_itemsNotNamed hne, itemsNamed_cons_of_ne hp']
termination_by patch.length
decreasing_by
  simp only [List.length_cons]
  have := List.length_filter_le (fun v => ¬ v.itemName? = some name) rest
  rw [itemsNotNamed]
  omega

variable {items patch : List Value}

/-- The first item of a name takes what the patch holds for it, and the others stay. -/
theorem getElem?_mergeItems (hitems : allNamed items = true) (hpatch : ItemsCanonical patch)
    {i : Nat} {v : Value} {name : String} (hi : items[i]? = some v)
    (hv : v.itemName? = some name) :
    (mergeItems items patch)[i]? =
      some (if some name ∈ (items.take i).map itemName? then v
        else (itemsNamed name patch).foldl mergePatch v) := by
  induction items generalizing patch i with
  | nil => cases hi
  | cons w rest ih =>
      obtain ⟨⟨other, hw⟩, hrest⟩ := allNamed_cons_iff.mp hitems
      rw [mergeItems_cons hw rest hpatch]
      cases i with
      | zero =>
          obtain rfl : w = v := Option.some.inj hi
          obtain rfl : other = name := Option.some.inj (hw.symm.trans hv)
          simp
      | succ i =>
          rw [List.getElem?_cons_succ] at hi ⊢
          rw [ih hrest (hpatch.itemsNotNamed other) hi, List.take_succ_cons, List.map_cons, hw]
          by_cases hname : name = other
          · -- the first item has taken all that there is for this name
            subst hname
            rw [if_pos List.mem_cons_self, itemsNamed_itemsNotNamed_self]
            simp
          · simp [itemsNamed_itemsNotNamed hname, hname]

/-- Behind the items that were there stand those of the new names. -/
theorem drop_mergeItems (hitems : allNamed items = true) (hpatch : ItemsCanonical patch)
    (hnamed : allNamed patch = true) :
    (mergeItems items patch).drop items.length = (newNames items patch).map fun name =>
      (itemsNamed name patch).foldl mergePatch (.object []) := by
  induction items generalizing patch with
  | nil => exact mergeItems_nil hpatch hnamed
  | cons v rest ih =>
      obtain ⟨⟨name, hv⟩, hrest⟩ := allNamed_cons_iff.mp hitems
      rw [mergeItems_cons hv rest hpatch, List.length_cons, List.drop_succ_cons,
        ih hrest (hpatch.itemsNotNamed name) (allNamed_itemsNotNamed hnamed name),
        newNames_cons hv]
      refine List.map_congr_left fun other hother => ?_
      rw [itemsNamed_itemsNotNamed (ne_of_mem_newNames hother)]

/-- What a new name makes of an empty object bears this name. -/
theorem itemName?_of_mem_newNames (hpatch : ItemsCanonical patch) {name : String}
    (h : name ∈ newNames items patch) :
    ((itemsNamed name patch).foldl mergePatch (.object [])).itemName? = some name := by
  obtain ⟨⟨p, hp, hname⟩, -⟩ := mem_newNames.mp h
  have hmem : p ∈ itemsNamed name patch := List.mem_filter.mpr ⟨hp, decide_eq_true hname⟩
  have hall : ItemsCanonical (itemsNamed name patch) := hpatch.filter _
  have hnames : ∀ q ∈ itemsNamed name patch, q.itemName? = some name :=
    fun q hq => itemName?_of_mem_itemsNamed hq
  cases hlist : itemsNamed name patch with
  | nil => simp [hlist] at hmem
  | cons q rest =>
      rw [hlist] at hall hnames
      have hq := hnames q List.mem_cons_self
      -- the empty object bears no name, but the first of the items leaves it with one
      rw [List.foldl_cons, ← withoutNulls_eq_mergePatch hall.1 hq]
      exact itemName?_foldl_mergePatch hall.2
        (fun r hr => hnames r (List.mem_cons_of_mem _ hr)) (itemName?_withoutNulls hall.1 hq)

/-- A merged list bears the names of the items, and then the new ones. -/
theorem names_mergeItems (hitems : allNamed items = true) (hpatch : ItemsCanonical patch)
    (hnamed : allNamed patch = true) :
    (mergeItems items patch).map itemName? =
      items.map itemName? ++ (newNames items patch).map some := by
  induction items generalizing patch with
  | nil =>
      rw [mergeItems_nil hpatch hnamed, List.map_map]
      exact List.map_congr_left fun name hname => itemName?_of_mem_newNames hpatch hname
  | cons v rest ih =>
      obtain ⟨⟨name, hv⟩, hrest⟩ := allNamed_cons_iff.mp hitems
      have hkept : ((itemsNamed name patch).foldl mergePatch v).itemName? = v.itemName? := by
        rw [hv]
        exact itemName?_foldl_mergePatch (hpatch.filter _)
          (fun p hp => itemName?_of_mem_itemsNamed hp) hv
      rw [mergeItems_cons hv rest hpatch, newNames_cons hv, List.map_cons, hkept,
        ih hrest (hpatch.itemsNotNamed name) (allNamed_itemsNotNamed hnamed name)]
      rfl

/-- Names that are distinct stay so, as no name is added that is there. -/
theorem nodup_names_mergeItems (hitems : allNamed items = true) (hpatch : ItemsCanonical patch)
    (hnamed : allNamed patch = true) (h : (items.map itemName?).Nodup) :
    ((mergeItems items patch).map itemName?).Nodup := by
  rw [names_mergeItems hitems hpatch hnamed, List.nodup_append]
  have hnew : ((newNames items patch).map some).Nodup :=
    List.pairwise_map.mpr
      ((nodup_newNames items patch).imp fun hne heq => hne (Option.some.inj heq))
  refine ⟨h, hnew, ?_⟩
  rintro held hheld _ hadded rfl
  obtain ⟨name, hname, rfl⟩ := List.mem_map.mp hadded
  obtain ⟨v, hv, hvname⟩ := List.mem_map.mp hheld
  exact (mem_newNames.mp hname).2 v hv hvname

/-! ### The law -/

/-- What merging makes of two lists of named items, in which names may occur more than once.

The items keep their places and their names. One item for each name that only the patch bears
follows them, in the order in which these names first occur in the patch. An item whose name the
patch does not bear stays as it is, and so does one whose name an earlier item bears. Every other
item takes the items of its name in the patch, one after the other, and a new one starts as an
empty object. Where no two of the items share a name, no two of the result do. -/
theorem mergePatch_namedLists (hitems : allNamed items = true) (hnamed : allNamed patch = true)
    (hpatch : ItemsCanonical patch) :
    ∃ merged, mergePatch (.array items) (.array patch) = .array merged ∧
      allNamed merged = true ∧
      merged.map itemName? = items.map itemName? ++ (newNames items patch).map some ∧
      (∀ name, name ∈ newNames items patch ↔
        (∃ p ∈ patch, p.itemName? = some name) ∧ ∀ v ∈ items, v.itemName? ≠ some name) ∧
      ((newNames items patch).Pairwise fun a b =>
        (patch.filterMap itemName?).idxOf a < (patch.filterMap itemName?).idxOf b) ∧
      (∀ (i : Nat) (v : Value) (name : String), items[i]? = some v → v.itemName? = some name →
        ((∀ p ∈ patch, p.itemName? ≠ some name) → merged[i]? = some v) ∧
        (some name ∈ (items.take i).map itemName? → merged[i]? = some v) ∧
        (some name ∉ (items.take i).map itemName? →
          merged[i]? = some ((itemsNamed name patch).foldl mergePatch v))) ∧
      (∀ (j : Nat) (name : String), (newNames items patch)[j]? = some name →
        merged[items.length + j]? =
          some ((itemsNamed name patch).foldl mergePatch (.object []))) ∧
      ((items.map itemName?).Nodup → (merged.map itemName?).Nodup) := by
  refine ⟨mergeItems items patch, ?_, allNamed_mergeItems hitems hpatch hnamed,
    names_mergeItems hitems hpatch hnamed, fun name => mem_newNames, pairwise_newNames items patch,
    fun i v name hi hv => ?_, fun j name hj => ?_,
    nodup_names_mergeItems hitems hpatch hnamed⟩
  · rw [mergePatch, hitems, hnamed]
    rfl
  · have hplace := getElem?_mergeItems hitems hpatch hi hv
    refine ⟨fun hnone => ?_, fun hearlier => ?_, fun hfirst => ?_⟩
    · have hempty : itemsNamed name patch = [] :=
        List.filter_eq_nil_iff.mpr fun p hp => by simpa using hnone p hp
      rw [hplace, hempty]
      simp
    · rw [hplace, if_pos hearlier]
    · rw [hplace, if_neg hfirst]
  · rw [← List.getElem?_drop, drop_mergeItems hitems hpatch hnamed, List.getElem?_map, hj]
    rfl

/-- Two containers of one name, and a patch that changes the first of them and adds one in two
steps. -/
theorem mergePatch_namedLists_containers :
    let container (name : String) (more : List (String × Value)) : Value :=
      .object (("name", .string name) :: more)
    let items := [container "app" [], container "sidecar" [], container "app" []]
    let patch := [container "log" [("size", .number (.int 1))],
      container "app" [("size", .number (.int 2))], container "log" [("type", .string "file")]]
    ∃ merged, mergePatch (.array items) (.array patch) = .array merged ∧
      merged.map itemName? = [some "app", some "sidecar", some "app", some "log"] ∧
      merged[0]? = some (container "app" [("size", .number (.int 2))]) ∧
      merged[1]? = some (container "sidecar" []) ∧ merged[2]? = some (container "app" []) ∧
      merged[3]? =
        some (container "log" [("size", .number (.int 1)), ("type", .string "file")]) := by
  intro container items patch
  have hcanonical : (Value.array patch).canonical = .array patch := by decide +kernel
  have hpatch : IsCanonical (.array patch) := hcanonical ▸ isCanonical_canonical (.array patch)
  have hnew : newNames items patch = ["log"] := by decide +kernel
  obtain ⟨merged, hmerged, -, hnames, -, -, hplace, hadded, -⟩ :=
    mergePatch_namedLists (show allNamed items = true from rfl)
      (show allNamed patch = true from rfl) hpatch
  refine ⟨merged, hmerged, ?_, ?_, ?_, ?_, ?_⟩
  · rw [hnames, hnew]
    decide +kernel
  · rw [(hplace 0 _ "app" rfl rfl).2.2 (by simp)]
    decide +kernel
  · exact (hplace 1 _ "sidecar" rfl rfl).1 (by decide +kernel)
  · exact (hplace 2 _ "app" rfl rfl).2.1 (by decide +kernel)
  · have h := hadded 0 "log" (by rw [hnew]; rfl)
    rw [Nat.add_zero] at h
    rw [show (3 : Nat) = items.length from rfl, h]
    decide +kernel

end ClusterTuning.Value
