import ClusterTuning.Templating.Call

/-!
# ClusterTuning.Templating.Memory

**What an evaluation remembers.**

Values do not change, with two exceptions. The members of a space can be assigned to, and a loop
knows what it was last asked about a change. Both are remembered under the label of the value. A
value gets its label when an expression makes it, and keeps it wherever it is passed.
-/

namespace ClusterTuning.Templating

/-- A computation that gives out labels. The state is the number of labels in use. -/
abbrev Labelling (α : Type) := StateM Nat α

/-- A label that is not in use. -/
def freshLabel : Labelling Nat :=
  modifyGet fun labels => (labels, labels + 1)

namespace Datum

mutual

/-- Give a label to a value, and to the values in it, where they have none. -/
def labelled : Datum → Labelling Datum
  | .list items .none => return .list (← labelledItems items) (some (← freshLabel))
  | .sequence items .none => return .sequence (← labelledItems items) (some (← freshLabel))
  | .dict entries role .none =>
    return .dict (← labelledEntries entries) role (some (← freshLabel))
  | d => return d

/-- Give labels to items. -/
def labelledItems : List Datum → Labelling (List Datum)
  | [] => return []
  | d :: rest => return (← labelled d) :: (← labelledItems rest)

/-- Give labels to entries. -/
def labelledEntries : List (Datum × Datum) → Labelling (List (Datum × Datum))
  | [] => return []
  | (k, v) :: rest => return (← labelled k, ← labelled v) :: (← labelledEntries rest)

end

end Datum

/-- What is remembered while a template is evaluated. -/
structure Memory where
  /-- The number of labels in use. -/
  labels : Nat := 0
  /-- The members of spaces, by label. The latest come first. -/
  spaces : List (Nat × List (Datum × Datum)) := []
  /-- The values that loops were last asked about, by label. The latest come first. -/
  asked : List (Nat × List Datum) := []

/-- A computation with a memory, which may fail. -/
abbrev Evaluating (α : Type) := StateT Memory (Except Fault) α

namespace Evaluating

/-- Give out labels during an evaluation. -/
def labelling {α : Type} (computation : Labelling α) : Evaluating α :=
  modifyGet fun memory =>
    let (result, labels) := computation.run memory.labels
    (result, { memory with labels := labels })

/-- The result of a computation without a memory, with labels. -/
def making (result : Except Fault Datum) : Evaluating Datum := do
  labelling (← result).labelled

/-- A value as it is by now. -/
def current (d : Datum) : Evaluating Datum := do
  match d with
  | .dict _ .space (some label) =>
    match (← get).spaces.lookup label with
    | some entries => return .dict entries .space (some label)
    | none => return d
  | d => return d

/-- Assign to a member of a value, which has to be a space. -/
def assignMember (whole : Datum) (name : String) (d : Datum) : Evaluating Unit := do
  match ← current whole with
  | .dict entries .space (some label) =>
    let entries := Datum.putEntry (.plain name.toList) d entries
    modify fun memory => { memory with spaces := (label, entries) :: memory.spaces }
  | _ => throw .invalidOperation

/-- Are the values others than those which the loop of a label was last asked about? -/
def changed (label : Nat) (values : List Datum) : Evaluating Bool := do
  let memory ← get
  if (memory.asked.lookup label).any fun before => Datum.sameItems before values then
    return false
  else
    set { memory with asked := (label, values) :: memory.asked }
    return true

end Evaluating

end ClusterTuning.Templating
