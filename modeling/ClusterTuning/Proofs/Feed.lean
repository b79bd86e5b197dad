import ClusterTuning.Feed
import Mathlib.Data.List.Induction
import Mathlib.Data.List.Nodup
import Mathlib.Data.List.Perm.Subperm

/-!
# ClusterTuning.Proofs.Feed

**Every activity is delivered once for each time that it is listed.**

What is remembered is never more than the last page that could be read (`mem_seenAfter_iff`), so a
page delivers what that page did not list. An activity that stays on the pages is therefore
delivered when it comes up, and not again until it has been away from a page that could be read.

## Main statements

* `fst_fresh`: the items of a page that are new, told by their places.
* `count_deliveries_of_not_mem`: over pages that all list an identity it is delivered once.
* `deliveries_onceEach`: what the looks of any history deliver, and what is remembered after them.
-/

namespace ClusterTuning.Feed

/-! ### Histories -/

/-- The last page that could be read, or none of any items. -/
def lastPage (looks : List Look) : List ActivityItem :=
  (looks.filterMap Except.toOption).getLast?.getD []

/-- What is remembered after looks. -/
def seenAfter (looks : List Look) : Seen :=
  looks.foldl (fun seen look => (next seen look).2) []

/-- The items of a page, in its order, whose identities are neither known nor those of items that
stand before them. -/
def newcomers (known : List String) (page : List ActivityItem) : List ActivityItem :=
  page.zipIdx.filterMap fun (item, place) =>
    if item.identity ∈ known ∨ item.identity ∈ (page.take place).map ActivityItem.identity then none
    else some item

theorem lastPage_concat_ok (looks : List Look) (page : List ActivityItem) :
    lastPage (looks ++ [.ok page]) = page := by
  simp [lastPage, Except.toOption]

theorem lastPage_concat_error (looks : List Look) (failure : Failure) :
    lastPage (looks ++ [.error failure]) = lastPage looks := by
  simp [lastPage, Except.toOption]

theorem seenAfter_concat (looks : List Look) (look : Look) :
    seenAfter (looks ++ [look]) = (next (seenAfter looks) look).2 := by
  rw [seenAfter, List.foldl_concat]
  rfl

theorem deliveries_append (seen : Seen) (front back : List Look) :
    deliveries seen (front ++ back) = deliveries seen front ++
      deliveries (front.foldl (fun seen look => (next seen look).2) seen) back := by
  induction front generalizing seen with
  | nil => rfl
  | cons look rest ih => exact congrArg ((next seen look).1 :: ·) (ih _)

/-! ### One page -/

theorem fresh_concat (seen : Seen) (items : List ActivityItem) (item : ActivityItem) :
    (fresh seen (items ++ [item])).1 = (fresh seen items).1 ++
      if item.identity ∈ (fresh seen items).2 then [] else [item] := by
  induction items generalizing seen with
  | nil => by_cases h : item.identity ∈ seen <;> simp [fresh, h]
  | cons head rest ih => by_cases h : head.identity ∈ seen <;> simp [fresh, h, ih]

/-- An item at the end of a page is new unless it is known or stands on the page already. The others
do not depend on it. -/
theorem newcomers_concat (known : List String) (items : List ActivityItem) (item : ActivityItem) :
    newcomers known (items ++ [item]) = newcomers known items ++
      if item.identity ∈ known ∨ item.identity ∈ items.map ActivityItem.identity then []
      else [item] := by
  rw [newcomers, newcomers, List.zipIdx_append, List.filterMap_append]
  congr 1
  · -- the items before a place are the same in the longer list
    refine List.filterMap_congr ?_
    rintro ⟨other, place⟩ hentry
    have hplace : place ≤ items.length := by
      have := List.snd_lt_of_mem_zipIdx hentry
      omega
    simp only [List.take_append_of_le_length hplace]
  · -- and before the last place stand all of them
    simp only [List.zipIdx_singleton, Nat.zero_add, List.filterMap_cons, List.take_left,
      List.filterMap_nil]
    by_cases h : item.identity ∈ known ∨ item.identity ∈ items.map ActivityItem.identity
    · rw [if_pos h, if_pos h]
    · rw [if_neg h, if_neg h]

/-- What is fresh on a page are its newcomers. -/
theorem fst_fresh (seen : Seen) (page : List ActivityItem) :
    (fresh seen page).1 = newcomers seen page := by
  induction page using List.reverseRecOn with
  | nil => rfl
  | append_singleton items item ih => simp only [fresh_concat, newcomers_concat, ih, mem_fresh_iff]

theorem newcomers_congr {known known' : List String} {page : List ActivityItem}
    (h : ∀ id ∈ page.map ActivityItem.identity, id ∈ known ↔ id ∈ known') :
    newcomers known page = newcomers known' page := by
  refine List.filterMap_congr ?_
  rintro ⟨item, place⟩ hentry
  have hitem : item ∈ page := List.fst_mem_of_mem_zipIdx hentry
  simp only [h _ (List.mem_map_of_mem hitem)]

theorem nodup_fresh {seen : Seen} (hseen : seen.Nodup) (items : List ActivityItem) :
    (fresh seen items).2.Nodup := by
  induction items generalizing seen with
  | nil => exact hseen
  | cons item rest ih =>
      by_cases h : item.identity ∈ seen
      · simpa [fresh, h] using ih hseen
      · have hlonger : (seen ++ [item.identity]).Nodup := by
          rw [← List.concat_eq_append]
          exact hseen.concat h
        simpa [fresh, h] using ih hlonger

/-- How often an identity is among the fresh items of a page. -/
theorem count_fresh (seen : Seen) (items : List ActivityItem) (id : String) :
    ((fresh seen items).1.map ActivityItem.identity).count id =
      if id ∈ items.map ActivityItem.identity ∧ id ∉ seen then 1 else 0 := by
  induction items generalizing seen with
  | nil => rfl
  | cons item rest ih =>
      by_cases h : item.identity ∈ seen
      · by_cases hid : id = item.identity
        · subst hid
          simp [fresh, h, ih]
        · simp [fresh, h, ih, hid]
      · by_cases hid : id = item.identity
        · subst hid
          simp [fresh, h, ih]
        · simp [fresh, h, ih, hid, Ne.symm hid]

/-! ### Whole histories -/

/-- What is remembered is the last page that could be read, and nothing from before it. -/
theorem mem_seenAfter_iff (looks : List Look) (id : String) :
    id ∈ seenAfter looks ↔ id ∈ (lastPage looks).map ActivityItem.identity := by
  induction looks using List.reverseRecOn with
  | nil => simp [seenAfter, lastPage]
  | append_singleton looks look ih =>
      rw [seenAfter_concat]
      cases look with
      | error failure => rw [next_failed, lastPage_concat_error, ih]
      | ok page => rw [mem_next_iff, lastPage_concat_ok]

theorem nodup_seenAfter (looks : List Look) : (seenAfter looks).Nodup := by
  induction looks using List.reverseRecOn with
  | nil => exact List.nodup_nil
  | append_singleton looks look ih =>
      rw [seenAfter_concat]
      cases look with
      | error failure => exact ih
      | ok page => exact nodup_fresh (ih.filter _) page

theorem length_seenAfter_le (looks : List Look) :
    (seenAfter looks).length ≤ (lastPage looks).length := by
  have hsubset : seenAfter looks ⊆ (lastPage looks).map ActivityItem.identity :=
    fun id hid => (mem_seenAfter_iff looks id).mp hid
  simpa using (List.subperm_of_subset (nodup_seenAfter looks) hsubset).length_le

theorem count_next (seen : Seen) (page : List ActivityItem) (id : String) :
    ((next seen (.ok page)).1.map ActivityItem.identity).count id =
      if id ∈ page.map ActivityItem.identity ∧ id ∉ seen then 1 else 0 := by
  rw [next, count_fresh]
  refine if_congr (and_congr_right fun hlisted => ?_) rfl rfl
  simp only [List.mem_filter, List.contains_iff_mem, hlisted, and_true]

section Listed

variable {looks : List Look} {id : String}

/-- What is remembered is not delivered as long as all pages list it. -/
theorem count_deliveries_of_mem {seen : Seen} (hseen : id ∈ seen)
    (h : ∀ page, .ok page ∈ looks → id ∈ page.map ActivityItem.identity) :
    ((deliveries seen looks).flatten.map ActivityItem.identity).count id = 0 := by
  induction looks generalizing seen with
  | nil => rfl
  | cons look rest ih =>
      have hrest : ∀ page, .ok page ∈ rest → id ∈ page.map ActivityItem.identity :=
        fun page hpage => h page (List.mem_cons_of_mem _ hpage)
      rw [deliveries, List.flatten_cons, List.map_append, List.count_append]
      cases look with
      | error failure =>
          rw [next_failed, ih hseen hrest]
          rfl
      | ok page =>
          have hkept : id ∈ (next seen (.ok page)).2 :=
            (mem_next_iff seen page id).mpr (h page List.mem_cons_self)
          rw [count_next, if_neg fun hnew => hnew.2 hseen, ih hkept hrest]

/-- What is not remembered is delivered once when all pages list it and there is a page. -/
theorem count_deliveries_of_not_mem {seen : Seen} (hseen : id ∉ seen)
    (hread : ∃ page, .ok page ∈ looks)
    (h : ∀ page, .ok page ∈ looks → id ∈ page.map ActivityItem.identity) :
    ((deliveries seen looks).flatten.map ActivityItem.identity).count id = 1 := by
  induction looks generalizing seen with
  | nil =>
      obtain ⟨page, hpage⟩ := hread
      cases hpage
  | cons look rest ih =>
      have hrest : ∀ page, .ok page ∈ rest → id ∈ page.map ActivityItem.identity :=
        fun page hpage => h page (List.mem_cons_of_mem _ hpage)
      rw [deliveries, List.flatten_cons, List.map_append, List.count_append]
      cases look with
      | error failure =>
          -- the page is yet to come, and nothing is remembered meanwhile
          have hlater : ∃ page, .ok page ∈ rest := by
            obtain ⟨page, hpage⟩ := hread
            exact ⟨page, (List.mem_cons.mp hpage).resolve_left (by simp)⟩
          rw [next_failed, ih hseen hlater hrest]
          rfl
      | ok page =>
          have hlisted := h page List.mem_cons_self
          have hkept : id ∈ (next seen (.ok page)).2 := (mem_next_iff seen page id).mpr hlisted
          rw [count_next, if_pos ⟨hlisted, hseen⟩, count_deliveries_of_mem hkept hrest]

end Listed

/-- Whatever looks there were before, a page delivers, in its order, the items whose identities were
not on the last page that could be read, and of several items with one identity the first. A look
that fails delivers nothing and changes nothing, and after a page its identities are remembered and
no others.

So an identity that comes up and stays on the pages is delivered exactly once, none that comes up is
lost, and no more is remembered than the last page had items. -/
theorem deliveries_onceEach (before : List Look) :
    (∀ look after, deliveries [] (before ++ look :: after) = deliveries [] before ++
      (next (seenAfter before) look).1 :: deliveries (seenAfter (before ++ [look])) after) ∧
    (∀ page, (next (seenAfter before) (.ok page)).1 =
      newcomers ((lastPage before).map ActivityItem.identity) page) ∧
    (∀ failure, next (seenAfter before) (.error failure) = ([], seenAfter before)) ∧
    (∀ page id, id ∈ seenAfter (before ++ [.ok page]) ↔ id ∈ page.map ActivityItem.identity) ∧
    (∀ looks id, id ∉ (lastPage before).map ActivityItem.identity →
      (∃ page, Except.ok page ∈ looks) →
      (∀ page, .ok page ∈ looks → id ∈ page.map ActivityItem.identity) →
      ((deliveries (seenAfter before) looks).flatten.map ActivityItem.identity).count id = 1) ∧
    (∀ page, ∀ id ∈ page.map ActivityItem.identity,
      id ∉ (lastPage before).map ActivityItem.identity →
      ∃ item ∈ (next (seenAfter before) (.ok page)).1, item.identity = id) ∧
    (seenAfter before).length ≤ (lastPage before).length := by
  refine ⟨?_, ?_, next_failed _, ?_, ?_, ?_, length_seenAfter_le before⟩
  · intro look after
    rw [deliveries_append, seenAfter_concat]
    rfl
  · intro page
    rw [next, fst_fresh]
    refine newcomers_congr fun id hid => ?_
    rw [List.mem_filter, List.contains_iff_mem, mem_seenAfter_iff]
    exact and_iff_left hid
  · intro page id
    rw [mem_seenAfter_iff, lastPage_concat_ok]
  · intro looks id hnew hread hlisted
    rw [← mem_seenAfter_iff] at hnew
    exact count_deliveries_of_not_mem hnew hread hlisted
  · intro page id hid hnew
    rw [← mem_seenAfter_iff] at hnew
    have hcount := count_next (seenAfter before) page id
    rw [if_pos ⟨hid, hnew⟩] at hcount
    have hmem := List.count_pos_iff.mp (hcount.symm ▸ Nat.one_pos)
    exact List.mem_map.mp hmem

/-- An activity without an identifier stays on two pages, on one of them twice, with a failure in
between, and is delivered once. Another one had been there before. -/
theorem deliveries_onceEach_scan :
    let known : ActivityItem := { id := "a", url := "s" }
    let scan : ActivityItem := { url := "t", tags := [.scan] }
    let looks : List Look :=
      [.ok [known, scan, scan], .error (.remoteApi "get" "timeout"), .ok [scan]]
    ((deliveries (seenAfter [.ok [known]]) looks).flatten.map ActivityItem.identity).count "t" =
      1 := by
  intro known scan looks
  refine (deliveries_onceEach [.ok [known]]).2.2.2.2.1 looks "t" (by decide)
    ⟨[known, scan, scan], List.mem_cons_self⟩ fun page hpage => ?_
  simp only [looks, List.mem_cons, List.not_mem_nil, or_false, reduceCtorEq, false_or,
    Except.ok.injEq] at hpage
  rcases hpage with rfl | rfl <;> decide

end ClusterTuning.Feed
