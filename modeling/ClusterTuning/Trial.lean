import ClusterTuning.Experiment
import ClusterTuning.TrialRecord
import ClusterTuning.Failure

/-!
# ClusterTuning.Trial

**Which trial is meant, and what it assigns.**

A trial is named after its experiment, with its number behind the last dash. Names are read as
strictly as they are written: behind the dash stand ASCII digits and nothing else.
-/

namespace ClusterTuning

/-- Read the number behind the last dash of the name of a trial. -/
def parseTrialNumber (name : String) : Except Failure Nat :=
  match Decimal.readDigits? 10 (Text.afterLast '-' name.toList) with
  | some number =>
    if number < twoTo 64 then .ok number else .error (.invalidTrialIdentifier name)
  | none => .error (.invalidTrialIdentifier name)

/-- How a trial is chosen. -/
inductive TrialSelector where
  /-- By its name. -/
  | byName (name : String)
  /-- By its number. -/
  | byNumber (number : Nat)
deriving DecidableEq, Repr, Inhabited

namespace TrialSelector

/-- A name wins over a number, and a negative number counts as none. -/
def ofFlags (name : String) (number : Int) : Except Failure TrialSelector :=
  if name ≠ "" then .ok (.byName name)
  else if 0 ≤ number then .ok (.byNumber number.toNat)
  else .error (.resolution "a trial name or number must be specified")

/-- The number of the trial. -/
def number : TrialSelector → Except Failure Nat
  | .byName name => parseTrialNumber name
  | .byNumber number => .ok number

end TrialSelector

/-- The first trial of the given number. -/
def selectTrial (trials : List TrialItem) (number : Nat) (experiment : String) :
    Except Failure TrialItem :=
  match trials.find? fun trial => trial.number = number with
  | some trial => .ok trial
  | none => .error (.trialNotFound experiment number)

/-- A trial with all that templates may refer to. -/
structure Trial where
  /-- The name. -/
  name : String
  /-- The namespace of the experiment. -/
  «namespace» : String
  /-- The number. -/
  number : Nat
  /-- The values of parameters, in the order of their names. -/
  assignments : List (String × Value)
deriving Repr, Inhabited

namespace Trial

/-- Digits filled with zeros to a width of three. -/
def paddedDigits (number : Nat) : List Char :=
  let digits := Decimal.natDigits number
  List.replicate (3 - digits.length) '0' ++ digits

/-- The baselines of the parameters that have one. -/
def baselines (e : Experiment) : List (String × Value) :=
  e.spec.parameters.filterMap fun p => p.baseline.map fun v => (p.name, v)

/-- A trial of an experiment. What the trial assigns wins over baselines. -/
def ofItem (e : Experiment) (item : TrialItem) : Trial where
  name := String.ofList (e.metadata.name.toList ++ '-' :: paddedDigits item.number)
  «namespace» := e.metadata.namespace
  number := item.number
  assignments :=
    Fields.putAll (Fields.ofList (baselines e))
      (item.assignments.map fun a => (a.parameterName, a.value))

end Trial

end ClusterTuning
