import ClusterTuning.Proofs.ExperimentTemplate
import ClusterTuning.Proofs.Names
import Mathlib.Data.List.Basic
import Mathlib.Data.List.Induction

/-!
# ClusterTuning.Proofs.ExperimentTemplate.Union

**Laying a template over an experiment is a union in which stored values win.**

The stored entries are laid over a list one by one, and each is searched for in the list that the
ones before it have left. A stored entry without a counterpart is appended, and then the next one of
its name finds it. One stored entry changes the first entry of its name and no other place
(`getElem?_overlayByName`), and it appends its name only if that is new (`names_overlayByName`). So
the place at which a name is first found never moves, and all that is stored under the name gathers
there (`getElem?_overlayAll`, `find?_overlayAll`).

Names may occur more than once, in the experiment and in the template.

## Main statements

* `unionOf_overlayAll`: the union of a list and what is stored, for any kind of entries.
* `overlayAll_again`: laying the same over it once more changes nothing.
* `ExperimentTemplate.overlay_union`: both for parameters and metrics, with the last stored value of
  each field; all else stays.
-/

namespace ClusterTuning

/-! ### One stored entry -/

section OverlayByName

variable {α : Type} {nameOf : α → String} {name : String} {fresh : α} {change : α → α}

/-- Laying an entry over adds its name if it is new, and moves none. -/
theorem names_overlayByName (hchange : ∀ a, nameOf (change a) = nameOf a)
    (hfresh : nameOf fresh = name) (entries : List α) :
    (overlayByName nameOf name fresh change entries).map nameOf =
      entries.map nameOf ++ if name ∈ entries.map nameOf then [] else [name] := by
  induction entries with
  | nil => simp [overlayByName, hchange, hfresh]
  | cons a rest ih =>
      rw [overlayByName]
      by_cases ha : nameOf a = name
      · simp [ha, hchange]
      · rw [if_neg ha, List.map_cons, ih]
        simp [Ne.symm ha]

/-- At each place the entry stays, unless it is the first one of the name. -/
theorem getElem?_overlayByName {entries : List α} {i : Nat} {a : α} (h : entries[i]? = some a) :
    (overlayByName nameOf name fresh change entries)[i]? =
      some (if (entries.map nameOf).idxOf name = i then change a else a) := by
  induction entries generalizing i with
  | nil => cases h
  | cons b rest ih =>
      rw [overlayByName, List.map_cons]
      by_cases hb : nameOf b = name
      · rw [if_pos hb, hb, List.idxOf_cons_self]
        cases i with
        | zero =>
            obtain rfl : b = a := by simpa using h
            rfl
        | succ i => simpa using h
      · rw [if_neg hb, List.idxOf_cons_ne _ hb]
        cases i with
        | zero => simpa using h
        | succ i => simpa using ih h

end OverlayByName

/-! ### All stored entries -/

section OverlayAll

variable {α σ : Type} (nameOf : α → String) (keyOf : σ → String) (fresh : String → α)
  (change : σ → α → α)

/-- A list with all stored entries laid over it in turn. -/
def overlayAll (stored : List σ) (entries : List α) : List α :=
  stored.foldl
    (fun entries s => overlayByName nameOf (keyOf s) (fresh (keyOf s)) (change s) entries) entries

/-- An entry with all that is stored under its name laid over it in turn. -/
def laidOver (stored : List σ) (a : α) : α :=
  stored.foldl (fun a s => if keyOf s = nameOf a then change s a else a) a

/-- The list is the union of the entries and fresh ones for the other names that are listed. Under
each listed name, `settle` made its first entry from the one that was there. -/
structure UnionOf (settle : α → α) (listed : List String) (entries union : List α) : Prop where
  /-- The names of the entries come first, then all others once, as they first occur. -/
  names : union.map nameOf = entries.map nameOf ++ addedNames (entries.map nameOf) listed
  /-- The first entry of a listed name is made from the one that was there, or from a fresh one. -/
  first : ∀ name ∈ listed, union.find? (fun a => nameOf a = name) =
    some (settle ((entries.find? fun a => nameOf a = name).getD (fresh name)))
  /-- An entry whose name is not listed stays in its place, and so does one that is not the first
  of its name. -/
  others : ∀ (i : Nat) (a : α), entries[i]? = some a →
    (nameOf a ∉ listed ∨ ∃ j < i, ∃ b, entries[j]? = some b ∧ nameOf b = nameOf a) →
    union[i]? = some a

variable {nameOf keyOf fresh change}

theorem laidOver_cons (s : σ) (stored : List σ) (a : α) :
    laidOver nameOf keyOf change (s :: stored) a =
      laidOver nameOf keyOf change stored (if keyOf s = nameOf a then change s a else a) :=
  rfl

theorem laidOver_append_singleton (stored : List σ) (s : σ) (a : α) :
    laidOver nameOf keyOf change (stored ++ [s]) a =
      if keyOf s = nameOf (laidOver nameOf keyOf change stored a) then
        change s (laidOver nameOf keyOf change stored a)
      else laidOver nameOf keyOf change stored a := by
  rw [laidOver, List.foldl_append]
  rfl

theorem laidOver_of_not_mem {stored : List σ} {a : α} (h : nameOf a ∉ stored.map keyOf) :
    laidOver nameOf keyOf change stored a = a := by
  induction stored with
  | nil => rfl
  | cons s rest ih =>
      rw [List.map_cons, List.mem_cons, not_or] at h
      rw [laidOver_cons, if_neg (Ne.symm h.1), ih h.2]

/-- An entry is the first of a name if it has the name and is the first with its own. -/
theorem idxOf_names_eq_iff {entries : List α} {i : Nat} {a : α} (h : entries[i]? = some a)
    {name : String} :
    (entries.map nameOf).idxOf name = i ↔
      name = nameOf a ∧ (entries.map nameOf).idxOf (nameOf a) = i := by
  constructor
  · rintro rfl
    have hlt : (entries.map nameOf).idxOf name < (entries.map nameOf).length := by
      rw [List.length_map]
      exact (List.getElem?_eq_some_iff.mp h).1
    have hname : (entries.map nameOf)[(entries.map nameOf).idxOf name] = name :=
      List.getElem_idxOf hlt
    have ha : name = nameOf a := by
      rw [← hname, List.getElem_map, (List.getElem?_eq_some_iff.mp h).2]
    exact ⟨ha, by rw [ha]⟩
  · rintro ⟨rfl, hi⟩
    exact hi

/-- No entry before the first of a name has the name. -/
theorem ne_of_lt_idxOf {entries : List α} {name : String} {j : Nat}
    (hj : j < (entries.map nameOf).idxOf name) {b : α} (hb : entries[j]? = some b) :
    nameOf b ≠ name := by
  obtain ⟨hlt, rfl⟩ := List.getElem?_eq_some_iff.mp hb
  have hother := List.not_of_lt_findIdx hj
  simpa using hother

theorem find?_eq_getElem?_idxOf (name : String) (entries : List α) :
    entries.find? (fun a => nameOf a = name) = entries[(entries.map nameOf).idxOf name]? := by
  induction entries with
  | nil => rfl
  | cons a rest ih =>
      by_cases ha : nameOf a = name
      · simp [ha]
      · rw [List.find?_cons_of_neg (by simpa using ha), ih, List.map_cons,
          List.idxOf_cons_ne _ ha, List.getElem?_cons_succ]

variable (hchange : ∀ s a, nameOf (change s a) = nameOf a)

include hchange

variable (hfresh : ∀ name, nameOf (fresh name) = name)

include hfresh

/-- The names after stored entries are laid over: those of the list, then the new ones in the order
in which they are stored. -/
theorem names_overlayAll (stored : List σ) (entries : List α) :
    (overlayAll nameOf keyOf fresh change stored entries).map nameOf =
      entries.map nameOf ++ addedNames (entries.map nameOf) (stored.map keyOf) := by
  induction stored generalizing entries with
  | nil => simp [overlayAll, addedNames]
  | cons s rest ih =>
      have hstep := names_overlayByName (hchange s) (hfresh (keyOf s)) entries
      rw [overlayAll, List.foldl_cons, ← overlayAll, ih, hstep, List.map_cons]
      by_cases hs : keyOf s ∈ entries.map nameOf
      · rw [if_pos hs, List.append_nil, addedNames_cons_of_mem hs]
      · rw [if_neg hs, List.append_assoc, List.singleton_append, addedNames_cons_of_not_mem hs]

/-- All that is stored under a name gathers at the first entry of the name. -/
theorem getElem?_overlayAll (stored : List σ) {entries : List α} {i : Nat} {a : α}
    (h : entries[i]? = some a) :
    (overlayAll nameOf keyOf fresh change stored entries)[i]? =
      some (if (entries.map nameOf).idxOf (nameOf a) = i then
        laidOver nameOf keyOf change stored a else a) := by
  induction stored generalizing entries a with
  | nil => simpa [overlayAll, laidOver] using h
  | cons s rest ih =>
      have hstep : (overlayByName nameOf (keyOf s) (fresh (keyOf s)) (change s) entries)[i]? = _ :=
        getElem?_overlayByName h
      have hhere : (entries.map nameOf).idxOf (keyOf s) = i ↔ _ := idxOf_names_eq_iff h
      have hname : nameOf (if (entries.map nameOf).idxOf (keyOf s) = i then change s a else a) =
          nameOf a := by
        split
        · exact hchange s a
        · rfl
      -- new names come behind those that are there, so the entry is the first of its name as before
      have hmem : nameOf a ∈ entries.map nameOf := List.mem_map_of_mem (List.mem_of_getElem? h)
      rw [overlayAll, List.foldl_cons, ← overlayAll, ih hstep, hname,
        names_overlayByName (hchange s) (hfresh (keyOf s)), List.idxOf_append_of_mem hmem]
      by_cases hfirst : (entries.map nameOf).idxOf (nameOf a) = i
      · simp only [hhere, hfirst, and_true, if_true, laidOver_cons]
      · simp only [hhere, hfirst, and_false, if_false]

/-- Under a name that is stored lies what all entries of the name make in turn, of the entry that
was there or of a fresh one. Every other name is found as before. -/
theorem find?_overlayAll (stored : List σ) (entries : List α) (name : String) :
    (overlayAll nameOf keyOf fresh change stored entries).find? (fun a => nameOf a = name) =
      if name ∈ stored.map keyOf then
        some (laidOver nameOf keyOf change stored
          ((entries.find? fun a => nameOf a = name).getD (fresh name)))
      else entries.find? fun a => nameOf a = name := by
  induction stored generalizing entries with
  | nil => rfl
  | cons s rest ih =>
      -- whether it was there or is fresh, the entry has the name
      have hbase : nameOf ((entries.find? fun a => nameOf a = name).getD (fresh name)) = name := by
        cases hfind : entries.find? fun a => nameOf a = name with
        | none => exact hfresh name
        | some a => simpa using List.find?_some hfind
      rw [overlayAll, List.foldl_cons, ← overlayAll, ih,
        find?_overlayByName (hchange s) (hfresh (keyOf s)), List.map_cons, laidOver_cons, hbase]
      by_cases hs : keyOf s = name
      · subst hs
        rw [if_pos rfl, if_pos rfl, Option.getD_some, if_pos List.mem_cons_self]
        split
        · rfl
        · rename_i hrest
          rw [laidOver_of_not_mem (by rwa [hchange, hbase])]
      · simp only [if_neg hs, List.mem_cons, Ne.symm hs, false_or]

/-- Laying stored entries over a list makes the union of both. -/
theorem unionOf_overlayAll (stored : List σ) (entries : List α) :
    UnionOf nameOf fresh (laidOver nameOf keyOf change stored) (stored.map keyOf) entries
      (overlayAll nameOf keyOf fresh change stored entries) where
  names := names_overlayAll hchange hfresh stored entries
  first name hname := by rw [find?_overlayAll hchange hfresh, if_pos hname]
  others i a h hother := by
    rw [getElem?_overlayAll hchange hfresh stored h]
    by_cases hfirst : (entries.map nameOf).idxOf (nameOf a) = i
    · have hlisted : nameOf a ∉ stored.map keyOf := by
        refine hother.resolve_right ?_
        rintro ⟨j, hj, b, hb, hname⟩
        exact ne_of_lt_idxOf (hfirst ▸ hj) hb hname
      rw [if_pos hfirst, laidOver_of_not_mem hlisted]
    · rw [if_neg hfirst]

/-- If laying over an entry what was just laid over it changes nothing, then the same holds of the
list. -/
theorem overlayAll_again {stored : List σ}
    (hagain : ∀ a, laidOver nameOf keyOf change stored (laidOver nameOf keyOf change stored a) =
      laidOver nameOf keyOf change stored a) (entries : List α) :
    overlayAll nameOf keyOf fresh change stored
        (overlayAll nameOf keyOf fresh change stored entries) =
      overlayAll nameOf keyOf fresh change stored entries := by
  have hfind : ∀ name, (overlayAll nameOf keyOf fresh change stored entries).find?
      (fun a => nameOf a = name) = _ := find?_overlayAll hchange hfresh stored entries
  generalize overlayAll nameOf keyOf fresh change stored entries = union at hfind ⊢
  -- every listed name is there by now, so nothing is appended
  have hthere : ∀ name ∈ stored.map keyOf, name ∈ union.map nameOf := by
    intro name hname
    have hsome := hfind name
    rw [if_pos hname] at hsome
    have hname' := List.find?_some hsome
    exact List.mem_map.mpr ⟨_, List.mem_of_find?_eq_some hsome, by simpa using hname'⟩
  have hlength : (overlayAll nameOf keyOf fresh change stored union).length = union.length := by
    have hnames : (overlayAll nameOf keyOf fresh change stored union).map nameOf = _ :=
      names_overlayAll hchange hfresh stored union
    rw [addedNames_eq_nil hthere, List.append_nil] at hnames
    simpa using congrArg List.length hnames
  refine List.ext_getElem? fun i => ?_
  cases h : union[i]? with
  | none => rwa [List.getElem?_eq_none_iff, hlength, ← List.getElem?_eq_none_iff]
  | some a =>
      rw [getElem?_overlayAll hchange hfresh stored h]
      split
      · rename_i hfirst
        have hsome := hfind (nameOf a)
        rw [find?_eq_getElem?_idxOf, hfirst, h] at hsome
        -- the first entry of a name is already made from all that is stored under it
        by_cases hlisted : nameOf a ∈ stored.map keyOf
        · rw [if_pos hlisted] at hsome
          rw [Option.some.inj hsome, hagain]
        · rw [laidOver_of_not_mem hlisted]
      · rfl

end OverlayAll

/-! ### The last stored value of a field -/

section LastStored

variable {σ β : Type}

/-- What the last of the stored entries of a name gives, of those that give anything. -/
def lastStored? (keyOf : σ → String) (given : σ → Option β) (stored : List σ) (name : String) :
    Option β :=
  stored.reverse.findSome? fun s => if keyOf s = name then given s else none

/-- The last entry decides, if it has the name and gives something. -/
theorem lastStored?_append_singleton (keyOf : σ → String) (given : σ → Option β) (stored : List σ)
    (s : σ) (name : String) :
    lastStored? keyOf given (stored ++ [s]) name =
      if keyOf s = name then (given s).or (lastStored? keyOf given stored name)
      else lastStored? keyOf given stored name := by
  rw [lastStored?, List.reverse_append, List.reverse_singleton, List.singleton_append,
    List.findSome?_cons]
  by_cases hs : keyOf s = name
  · rw [if_pos hs, if_pos hs]
    cases given s <;> rfl
  · rw [if_neg hs, if_neg hs, lastStored?]

end LastStored

/-- The values of a stored parameter, unless they are empty. -/
def TemplateParameter.values? (s : TemplateParameter) : Option (List String) :=
  if s.values = [] then none else some s.values

namespace ExperimentTemplate

/-- A parameter with what the template stores under its name: the last bounds, the last baseline and
the last values that are not empty. What is not stored stays, and so do the fields that no template
has. -/
def settleParameter (stored : List TemplateParameter) (p : Parameter) : Parameter :=
  let bounds := lastStored? TemplateParameter.name TemplateParameter.bounds stored p.name
  { p with
    min := (bounds.map Bounds.min).or p.min
    max := (bounds.map Bounds.max).or p.max
    baseline := (lastStored? TemplateParameter.name TemplateParameter.baseline stored p.name).or
      p.baseline
    values := (lastStored? TemplateParameter.name TemplateParameter.values? stored p.name).getD
      p.values }

/-- A metric with what the template stores under its name: the last direction and the last query. -/
def settleMetric (stored : List TemplateMetric) (m : Metric) : Metric :=
  { m with
    minimize := (lastStored? TemplateMetric.name (fun s => some s.minimize) stored m.name).getD
      m.minimize
    query := (lastStored? TemplateMetric.name TemplateMetric.query stored m.name).or m.query }

/-- Laying all stored parameters of a name over one in turn comes to the last of what they give. -/
theorem laidOver_parameter (stored : List TemplateParameter) (p : Parameter) :
    laidOver Parameter.name TemplateParameter.name TemplateParameter.overlay stored p =
      settleParameter stored p := by
  induction stored using List.reverseRecOn with
  | nil => rfl
  | append_singleton stored s ih =>
      rw [laidOver_append_singleton, ih, settleParameter, settleParameter]
      simp only [lastStored?_append_singleton]
      by_cases hs : s.name = p.name
      · simp only [if_pos hs, TemplateParameter.overlay, TemplateParameter.values?]
        cases s.bounds <;> cases s.baseline <;> cases s.values <;> rfl
      · simp only [if_neg hs]

theorem laidOver_metric (stored : List TemplateMetric) (m : Metric) :
    laidOver Metric.name TemplateMetric.name TemplateMetric.overlay stored m =
      settleMetric stored m := by
  induction stored using List.reverseRecOn with
  | nil => rfl
  | append_singleton stored s ih =>
      rw [laidOver_append_singleton, ih, settleMetric, settleMetric]
      simp only [lastStored?_append_singleton]
      by_cases hs : s.name = m.name
      · simp only [if_pos hs, TemplateMetric.overlay]
        cases s.query <;> rfl
      · simp only [if_neg hs]

theorem settleParameter_again (stored : List TemplateParameter) (p : Parameter) :
    settleParameter stored (settleParameter stored p) = settleParameter stored p := by
  simp only [settleParameter]
  cases lastStored? TemplateParameter.name TemplateParameter.bounds stored p.name <;>
    cases lastStored? TemplateParameter.name TemplateParameter.baseline stored p.name <;>
      cases lastStored? TemplateParameter.name TemplateParameter.values? stored p.name <;> rfl

theorem settleMetric_again (stored : List TemplateMetric) (m : Metric) :
    settleMetric stored (settleMetric stored m) = settleMetric stored m := by
  simp only [settleMetric]
  cases lastStored? TemplateMetric.name (fun s => some s.minimize) stored m.name <;>
    cases lastStored? TemplateMetric.name TemplateMetric.query stored m.name <;> rfl

theorem overlayParameters_eq (stored : List TemplateParameter) :
    overlayParameters stored =
      overlayAll Parameter.name TemplateParameter.name (fun name => { name })
        TemplateParameter.overlay stored :=
  rfl

theorem overlayMetrics_eq (stored : List TemplateMetric) :
    overlayMetrics stored =
      overlayAll Metric.name TemplateMetric.name (fun name => { name })
        TemplateMetric.overlay stored :=
  rfl

theorem unionOf_overlayParameters (stored : List TemplateParameter) (ps : List Parameter) :
    UnionOf Parameter.name (fun name => { name }) (settleParameter stored)
      (stored.map TemplateParameter.name) ps (overlayParameters stored ps) := by
  rw [overlayParameters_eq, ← funext (laidOver_parameter stored)]
  exact @unionOf_overlayAll _ _ Parameter.name TemplateParameter.name _ TemplateParameter.overlay
    (fun _ _ => rfl) (fun _ => rfl) stored ps

theorem unionOf_overlayMetrics (stored : List TemplateMetric) (ms : List Metric) :
    UnionOf Metric.name (fun name => { name }) (settleMetric stored)
      (stored.map TemplateMetric.name) ms (overlayMetrics stored ms) := by
  rw [overlayMetrics_eq, ← funext (laidOver_metric stored)]
  exact @unionOf_overlayAll _ _ Metric.name TemplateMetric.name _ TemplateMetric.overlay
    (fun _ _ => rfl) (fun _ => rfl) stored ms

/-- A template that is laid over twice changes nothing the second time. -/
theorem overlay_again (t : ExperimentTemplate) (e : Experiment) :
    t.overlay (t.overlay e) = t.overlay e := by
  have hparameters := @overlayAll_again _ _ Parameter.name TemplateParameter.name
    (fun name => { name }) TemplateParameter.overlay (fun _ _ => rfl) (fun _ => rfl) t.parameters
    (fun p => by simp only [laidOver_parameter, settleParameter_again]) e.spec.parameters
  have hmetrics := @overlayAll_again _ _ Metric.name TemplateMetric.name
    (fun name => { name }) TemplateMetric.overlay (fun _ _ => rfl) (fun _ => rfl) t.metrics
    (fun m => by simp only [laidOver_metric, settleMetric_again]) e.spec.metrics
  rw [← overlayParameters_eq] at hparameters
  rw [← overlayMetrics_eq] at hmetrics
  simp only [overlay, hparameters, hmetrics]

/-- Laying a template over an experiment makes the union of their parameters and of their metrics.
The entries of the experiment come first, in their places, and then those of the template alone.
The first entry of each stored name has the last value that is stored for each field, and what is
not stored is as before. All other entries stay, and all else of the experiment does. Laying the
template over the result changes nothing any more. -/
theorem overlay_union (t : ExperimentTemplate) (e : Experiment) :
    UnionOf Parameter.name (fun name => { name }) (settleParameter t.parameters)
        (t.parameters.map TemplateParameter.name) e.spec.parameters
        (t.overlay e).spec.parameters ∧
      UnionOf Metric.name (fun name => { name }) (settleMetric t.metrics)
        (t.metrics.map TemplateMetric.name) e.spec.metrics (t.overlay e).spec.metrics ∧
      { t.overlay e with spec := { (t.overlay e).spec with
        parameters := e.spec.parameters, metrics := e.spec.metrics } } = e ∧
      t.overlay (t.overlay e) = t.overlay e :=
  ⟨unionOf_overlayParameters t.parameters e.spec.parameters,
    unionOf_overlayMetrics t.metrics e.spec.metrics, rfl, overlay_again t e⟩

/-- Of two stored entries of one name the later one wins field by field, and only the first
parameter of the name takes them. A name of the template alone is appended once. -/
example :
    overlayParameters
        [{ name := "cpu", bounds := some ⟨1, 4⟩ }, { name := "tier", values := ["a"] },
          { name := "cpu", bounds := some ⟨2, 8⟩ }, { name := "tier" }]
        [{ name := "cpu", max := some 1, values := ["x"] }, { name := "cpu", min := some 7 }] =
      [{ name := "cpu", min := some 2, max := some 8, values := ["x"] },
        { name := "cpu", min := some 7 }, { name := "tier", values := ["a"] }] :=
  rfl

end ExperimentTemplate

end ClusterTuning
