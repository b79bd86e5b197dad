import ClusterTuning.Activity
import ClusterTuning.Deployment

/-!
# ClusterTuning.Report

**What became of an activity.**

Every activity has one report, whether something was done about it or not. The summary of a report
is what the controller publishes.
-/

namespace ClusterTuning

/-- What was done about an activity. -/
inductive ActivityOutcome where
  /-- The template of the experiment was stored. -/
  | scanned (experiment templateUrl : String)
  /-- The experiment was deployed. Single resources may have failed. -/
  | ran (experiment : String) (deploy : DeployReport)
deriving Repr, Inhabited

/-- The report about an activity. -/
structure ActivityReport where
  /-- The identifier of the activity. -/
  id : String
  /-- The address of the scenario it is about. -/
  url : String
  /-- What it asked for, if that is known. -/
  action : Option Action
  /-- What was done. -/
  outcome : Except Failure ActivityOutcome

instance : Inhabited ActivityReport := ⟨⟨"", "", none, .error default⟩⟩

namespace ActivityReport

/-- Did nothing fail? -/
def isSuccess (r : ActivityReport) : Bool :=
  match r.outcome with
  | .ok (.scanned ..) => true
  | .ok (.ran _ deploy) => deploy.isSuccess
  | .error _ => false

/-- The messages about all that failed. -/
def errorMessages (r : ActivityReport) : List String :=
  match r.outcome with
  | .ok (.scanned ..) => []
  | .ok (.ran _ deploy) => deploy.errors.map Failure.message
  | .error e => [e.message]

/-- The name of the experiment that was scanned or run. -/
def experiment? (r : ActivityReport) : Option String :=
  match r.outcome with
  | .ok (.scanned experiment _) => some experiment
  | .ok (.ran experiment _) => some experiment
  | .error _ => none

end ActivityReport

/-- What is published about an activity. -/
structure ReportSummary where
  /-- The identifier of the activity. -/
  id : String
  /-- The address of the scenario it is about. -/
  url : String
  /-- The tag of what it asked for, if that is known. -/
  tag : Option String
  /-- The word for whether nothing failed: `ok` or `failed`. -/
  status : String
  /-- The name of the experiment that was scanned or run. -/
  experiment : Option String
  /-- The messages about all that failed. -/
  errors : List String
deriving DecidableEq, Repr, Inhabited

namespace ReportSummary

/-- The summary of a report. -/
def ofReport (r : ActivityReport) : ReportSummary where
  id := r.id
  url := r.url
  tag := r.action.map Action.name
  status := if r.isSuccess then "ok" else "failed"
  experiment := r.experiment?
  errors := r.errorMessages

/-- A summary as a value. -/
def encode (s : ReportSummary) : Value :=
  .object (Encode.field "id" (.string s.id) ++ Encode.field "url" (.string s.url) ++
    Encode.field "tag" ((s.tag.map Value.string).getD .null) ++
    Encode.field "status" (.string s.status) ++
    Encode.optional "experiment" Value.string s.experiment ++
    Encode.nonEmptyList "errors" Value.string s.errors)

end ReportSummary

end ClusterTuning
