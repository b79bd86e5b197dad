import ClusterTuning.Activity
import ClusterTuning.Failure

/-!
# ClusterTuning.Feed

**Looking at the activities again and again, and delivering each of them once.**

Every look shows a page of activities. An activity is delivered when it was not on the last page
that could be read, and when it stands on the present page for the first time. Only the last page
has to be remembered for that, and a look that fails changes nothing.

## Main statements

* `next_failed` : a look that fails delivers nothing and is forgotten.
* `mem_next_iff` : what is remembered is exactly what the page shows.
-/

namespace ClusterTuning.Feed

/-- The identities on the last page that could be read. -/
abbrev Seen := List String

/-- A page, or why there is none. -/
abbrev Look := Except Failure (List ActivityItem)

/-- The items whose identities are not yet `seen`, each identity once, and the identities seen after
them. -/
def fresh (seen : Seen) : List ActivityItem → List ActivityItem × Seen
  | [] => ([], seen)
  | item :: rest =>
    if seen.contains item.identity then fresh seen rest
    else
      let (items, seen) := fresh (seen ++ [item.identity]) rest
      (item :: items, seen)

/-- What a look delivers, and what is remembered after it. -/
def next (seen : Seen) : Look → List ActivityItem × Seen
  | .error _ => ([], seen)
  | .ok items =>
    let listed := items.map ActivityItem.identity
    fresh (seen.filter fun id => listed.contains id) items

/-- What looks deliver one after the other. -/
def deliveries (seen : Seen) : List Look → List (List ActivityItem)
  | [] => []
  | look :: rest =>
    let (items, seen) := next seen look
    items :: deliveries seen rest

/-- What a subscription delivers. It fails when its first look does. -/
def subscribe : List Look → Except Failure (List (List ActivityItem))
  | .error e :: _ => .error e
  | looks => .ok (deliveries [] looks)

theorem next_failed (seen : Seen) (e : Failure) : next seen (.error e) = ([], seen) :=
  rfl

theorem mem_fresh_iff (id : String) (items : List ActivityItem) (seen : Seen) :
    id ∈ (fresh seen items).2 ↔ id ∈ seen ∨ id ∈ items.map ActivityItem.identity := by
  induction items generalizing seen with
  | nil => simp [fresh]
  | cons item rest ih =>
    by_cases h : item.identity ∈ seen
    · simp only [fresh, List.contains_iff_mem, h, if_true, ih, List.map_cons, List.mem_cons]
      constructor
      · rintro (hs | hr)
        · exact .inl hs
        · exact .inr (.inr hr)
      · rintro (hs | rfl | hr)
        · exact .inl hs
        · exact .inl h
        · exact .inr hr
    · simp only [fresh, List.contains_iff_mem, h, if_false, ih, List.map_cons, List.mem_cons,
        List.mem_append, List.not_mem_nil, or_false, or_assoc]

theorem mem_next_iff (seen : Seen) (items : List ActivityItem) (id : String) :
    id ∈ (next seen (.ok items)).2 ↔ id ∈ items.map ActivityItem.identity := by
  simp only [next, mem_fresh_iff, List.mem_filter, List.contains_iff_mem]
  exact ⟨fun h => h.elim And.right fun h => h, .inr⟩

end ClusterTuning.Feed
