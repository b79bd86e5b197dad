import ClusterTuning.ExperimentTemplate
import ClusterTuning.Scenario
import ClusterTuning.TrialRecord

/-!
# ClusterTuning.Remote

**The remote API as what it stores.**

The API knows experiments with their trials, and scenarios with their applications and templates.
Every call is written down, also one that finds nothing. Only templates can be changed.
-/

namespace ClusterTuning

/-- A call of the remote API. -/
inductive RemoteCall where
  /-- Ask for an experiment by its name. -/
  | experiment (name : String)
  /-- Ask for the trials in some states. -/
  | trials (states : List TrialStatus)
  /-- Subscribe to activities. -/
  | subscribe
  /-- Ask for a scenario. -/
  | scenario (url : String)
  /-- Ask for an application. -/
  | application (url : String)
  /-- Ask for a template. -/
  | template (url : String)
  /-- Store a template. -/
  | storeTemplate (url : String)
deriving DecidableEq, Repr, Inhabited

/-- A call in words. -/
def RemoteCall.words : RemoteCall → String
  | .experiment name => "get_experiment_by_name " ++ name
  | .trials states =>
    "get_all_trials " ++
      Text.joinStrings "&" ((TrialStatus.query states).map fun (key, value) => key ++ "=" ++ value)
  | .subscribe => "subscribe_activity"
  | .scenario url => "get_scenario " ++ url
  | .application url => "get_application " ++ url
  | .template url => "get_template " ++ url
  | .storeTemplate url => "update_template " ++ url

/-- What the remote API stores, and the calls it has had. -/
structure Remote where
  /-- Experiments by name. -/
  experiments : List (String × ExperimentItem) := []
  /-- Trials by the address at which they are listed. -/
  trials : List (String × List TrialItem) := []
  /-- Scenarios by address. -/
  scenarios : List (String × Scenario) := []
  /-- Applications by address. -/
  applications : List (String × StoredApplication) := []
  /-- Templates by address. -/
  templates : List (String × ExperimentTemplate) := []
  /-- The calls, in order. -/
  calls : List RemoteCall := []
deriving Inhabited

namespace Remote

/-- Write a call down. -/
def log (call : RemoteCall) (r : Remote) : Remote :=
  { r with calls := r.calls ++ [call] }

/-- What a call answers that looks for something. -/
def answer {α : Type} (operation what : String) : Option α → Except Failure α
  | some a => .ok a
  | none => .error (.remoteApi operation ("API error (404 Not Found): " ++ what))

/-- Ask for an experiment. -/
def getExperiment (name : String) (r : Remote) : Except Failure ExperimentItem × Remote :=
  (answer "get experiment" name (Fields.get? name r.experiments), r.log (.experiment name))

/-- Is a trial in one of the states? -/
def isIn (states : List TrialStatus) (t : TrialItem) : Bool :=
  states.isEmpty || t.status.any fun status => states.contains status

/-- Ask for the trials that are listed at an address and are in one of the states. -/
def getTrials (url : String) (states : List TrialStatus) (r : Remote) :
    Except Failure TrialList × Remote :=
  ((answer "get trials" url (Fields.get? url r.trials)).map fun trials =>
      ⟨trials.filter (isIn states)⟩,
    r.log (.trials states))

/-- Ask for a scenario. -/
def getScenario (url : String) (r : Remote) : Except Failure Scenario × Remote :=
  (answer "get scenario" url (Fields.get? url r.scenarios), r.log (.scenario url))

/-- Ask for an application. -/
def getApplication (url : String) (r : Remote) : Except Failure StoredApplication × Remote :=
  (answer "get application" url (Fields.get? url r.applications), r.log (.application url))

/-- Ask for a template. -/
def getTemplate (url : String) (r : Remote) : Except Failure ExperimentTemplate × Remote :=
  (answer "get template" url (Fields.get? url r.templates), r.log (.template url))

/-- Store a template. -/
def putTemplate (url : String) (t : ExperimentTemplate) (r : Remote) : Remote :=
  { r.log (.storeTemplate url) with templates := Fields.put url t r.templates }

/-- Where the trials of an experiment are listed. -/
def trialsUrl (experiment : String) : String :=
  "/v1/experiments/" ++ experiment ++ "/trials"

/-- Add a completed trial of an experiment. -/
def addTrial (experiment : String) (number : Nat) (assignments : List (String × Value))
    (r : Remote) : Remote :=
  let url := trialsUrl experiment
  let trial : TrialItem :=
    { number := number, status := some .completed,
      assignments := assignments.map fun (name, v) => ⟨name, v⟩ }
  { r with
    experiments := Fields.put experiment ⟨experiment, url⟩ r.experiments
    trials := Fields.put url ((Fields.get? url r.trials).getD [] ++ [trial]) r.trials }

/-- Add an experiment whose trials are listed nowhere. -/
def addExperiment (experiment : String) (r : Remote) : Remote :=
  { r with experiments := Fields.put experiment ⟨experiment, ""⟩ r.experiments }

end Remote

end ClusterTuning
