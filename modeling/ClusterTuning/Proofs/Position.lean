import ClusterTuning.Proofs.Canonical

/-!
# ClusterTuning.Proofs.Position

**Positions in a value.**

A step leads to the field of a name or to the item at a place, and a path is a sequence of steps.
-/

namespace ClusterTuning.Value

/-- A step into a value: to the field of a name, or to the item at a place. -/
inductive Step where
  /-- To the field of a name. -/
  | field (name : String)
  /-- To the item at a place. -/
  | item (index : Nat)

/-- What stands behind a step. -/
def behind? : Value → Step → Option Value
  | .object fields, .field name => Fields.get? name fields
  | .array items, .item index => items[index]?
  | _, _ => none

/-- What stands at the end of a path. -/
def at? : List Step → Value → Option Value
  | [], v => some v
  | step :: path, v => (v.behind? step).bind (at? path)

@[simp] theorem at?_cons (step : Step) (path : List Step) (v : Value) :
    v.at? (step :: path) = (v.behind? step).bind (at? path) := rfl

/-- A text, a number or a truth value. -/
def IsScalar (v : Value) : Prop :=
  (∃ n, v = .number n) ∨ (∃ b, v = .bool b) ∨ ∃ s, v = .string s

theorem IsScalar.behind? {v : Value} (h : v.IsScalar) (step : Step) : v.behind? step = none := by
  rcases h with ⟨_, rfl⟩ | ⟨_, rfl⟩ | ⟨_, rfl⟩ <;> rfl

/-- One step into a canonical value leads to a canonical value. -/
theorem IsCanonical.behind? {v u : Value} (hv : v.IsCanonical) {step : Step}
    (hu : v.behind? step = some u) : u.IsCanonical := by
  cases v with
  | object fields =>
      cases step with
      | field name => exact hv.2.of_get? hu
      | item index => cases hu
  | array items =>
      cases step with
      | field name => cases hu
      | item index => exact itemsCanonical_iff.mp hv u (List.mem_of_getElem? hu)
  | _ => cases hu

/-! ### Paths of names -/

/-- What a path of names leads to. -/
def under? (names : List String) (v : Value) : Option Value :=
  v.at? (names.map .field)

theorem behind?_field (v : Value) (name : String) : v.behind? (.field name) = v.get? name := by
  cases v <;> rfl

@[simp] theorem under?_cons (name : String) (names : List String) (v : Value) :
    v.under? (name :: names) = (v.get? name).bind (under? names) := by
  rw [← behind?_field]
  rfl

theorem IsCanonical.under? {v u : Value} {names : List String} (hv : v.IsCanonical)
    (hu : v.under? names = some u) : u.IsCanonical := by
  induction names generalizing v with
  | nil =>
      cases hu
      exact hv
  | cons name names ih =>
      rw [under?_cons, Option.bind_eq_some_iff] at hu
      obtain ⟨w, hw, hu⟩ := hu
      rw [← behind?_field] at hw
      exact ih (hv.behind? hw) hu

/-! What a path leads to from a place that may hold nothing. -/

theorem bind_under?_nil (old : Option Value) : old.bind (under? []) = old := by
  cases old <;> rfl

theorem bind_under?_cons (name : String) (names : List String) (old : Option Value) :
    old.bind (under? (name :: names)) = (old.bind (get? name)).bind (under? names) := by
  rw [Option.bind_assoc]
  exact Option.bind_congr fun v _ => under?_cons name names v

theorem bind_under?_append (front back : List String) (old : Option Value) :
    old.bind (under? (front ++ back)) = (old.bind (under? front)).bind (under? back) := by
  induction front generalizing old with
  | nil => rw [List.nil_append, bind_under?_nil]
  | cons name names ih => rw [List.cons_append, bind_under?_cons, bind_under?_cons, ih]

end ClusterTuning.Value
