import Mathlib.Data.List.Basic

/-!
# ClusterTuning.Proofs.Names

**Names in the order in which they first occur.**

Where entries are kept by name, a name is listed once, at the place of its first entry. Going
through the entries one by one, each adds its name or does not (`addedNames_cons_of_not_mem`,
`addedNames_cons_of_mem`).

## Main statements

* `pairwise_idxOf_eraseDups`: names without their repetitions stand in the order in which they first
  occur.
-/

namespace ClusterTuning

/-- What is left of a list keeps its order. -/
theorem idxOf_lt_of_idxOf_filter_lt {keep : String → Bool} {a b : String} (ha : keep a = true)
    (hb : keep b = true) {names : List String}
    (h : (names.filter keep).idxOf a < (names.filter keep).idxOf b) :
    names.idxOf a < names.idxOf b := by
  induction names with
  | nil => simp at h
  | cons name rest ih =>
      by_cases hname : keep name = true
      · rw [List.filter_cons_of_pos hname] at h
        rw [List.idxOf_cons, List.idxOf_cons] at h ⊢
        cases hna : name == a <;> cases hnb : name == b <;> simp_all
      · -- a name that is dropped is neither of the two, so it stands before both of them
        rw [List.filter_cons_of_neg hname] at h
        have hna : name ≠ a := fun heq => hname (heq ▸ ha)
        have hnb : name ≠ b := fun heq => hname (heq ▸ hb)
        rw [List.idxOf_cons_ne rest hna, List.idxOf_cons_ne rest hnb]
        have := ih h
        omega

/-- Names without their repetitions stand in the order in which they first occur. -/
theorem pairwise_idxOf_eraseDups (names : List String) :
    names.eraseDups.Pairwise fun a b => names.idxOf a < names.idxOf b := by
  match names with
  | [] => exact List.Pairwise.nil
  | name :: rest =>
      have hrest := pairwise_idxOf_eraseDups (rest.filter fun other => !other == name)
      have hother : ∀ b ∈ (rest.filter fun other => !other == name).eraseDups,
          (!b == name) = true := fun b hb =>
        (List.mem_filter.mp (List.mem_eraseDups.mp hb)).2
      -- the other names stand one place further on than they do behind the first
      have hidx : ∀ b : String, (!b == name) = true →
          (name :: rest).idxOf b = rest.idxOf b + 1 := fun b hb =>
        List.idxOf_cons_ne rest fun heq => by simp [heq] at hb
      rw [List.eraseDups_cons, List.pairwise_cons]
      refine ⟨fun b hb => ?_, hrest.imp_of_mem fun {a b} ha hb h => ?_⟩
      · rw [List.idxOf_cons_self, hidx b (hother b hb)]
        omega
      · have := idxOf_lt_of_idxOf_filter_lt (hother a ha) (hother b hb) h
        rw [hidx a (hother a ha), hidx b (hother b hb)]
        omega
termination_by names.length
decreasing_by
  have := List.length_filter_le (fun other => !other == name) rest
  simp only [List.length_cons]
  omega

/-! ### Names that are added to others -/

/-- The names that are listed but not there yet, each once, in the order in which they first
occur. -/
def addedNames (names listed : List String) : List String :=
  (listed.filter fun name => name ∉ names).eraseDups

theorem addedNames_nil (listed : List String) : addedNames [] listed = listed.eraseDups := by
  simp [addedNames]

theorem addedNames_cons_of_mem {names : List String} {name : String} (h : name ∈ names)
    (listed : List String) : addedNames names (name :: listed) = addedNames names listed := by
  rw [addedNames, List.filter_cons_of_neg (by simpa using h), addedNames]

theorem addedNames_cons_of_not_mem {names : List String} {name : String} (h : name ∉ names)
    (listed : List String) :
    addedNames names (name :: listed) = name :: addedNames (names ++ [name]) listed := by
  rw [addedNames, List.filter_cons_of_pos (by simpa using h), List.eraseDups_cons,
    List.filter_filter, addedNames]
  congr 2
  refine List.filter_congr fun other _ => ?_
  by_cases hother : other = name <;> simp [hother, h]

theorem addedNames_eq_nil {names listed : List String} (h : ∀ name ∈ listed, name ∈ names) :
    addedNames names listed = [] := by
  rw [addedNames, List.filter_eq_nil_iff.mpr (by simpa using h), List.eraseDups_nil]

end ClusterTuning
