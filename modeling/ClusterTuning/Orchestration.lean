import ClusterTuning.Manifest.Extract
import ClusterTuning.Manifest.Reader
import ClusterTuning.Remote
import ClusterTuning.Report

/-!
# ClusterTuning.Orchestration

**Acting upon activities.**

An activity names a scenario and asks for a scan or a run. Both put the application of the scenario
together, let the generator make manifests of it, and take the one experiment among these. A scan
stores the template of the experiment; a run lays the stored template over the experiment and
deploys all.

Activities are handled one after the other, and each gives one report. A failure ends the activity
and nothing else, and before the last step nothing is changed outside. A report that nobody takes
ends nothing at all.
-/

namespace ClusterTuning

/-- Makes manifests of an application. -/
abbrev Generator := Application → Except Failure Bytes

/-- All that activities can act upon. -/
structure World where
  /-- The remote API. -/
  remote : Remote := {}
  /-- The cluster. -/
  cluster : Cluster := {}
  /-- The generator. -/
  generator : Generator
  /-- How often the generator has been used. -/
  generated : Nat := 0

namespace World

/-- Let the generator make manifests. -/
def generate (app : Application) (w : World) : Except Failure Bytes × World :=
  (w.generator app, { w with generated := w.generated + 1 })

/-- Keep what a call of the remote API leaves behind. -/
def withRemote {α : Type} (w : World) (answer : α × Remote) : α × World :=
  (answer.1, { w with remote := answer.2 })

end World

namespace Orchestration

/-- What the generator made of an application. -/
def generatedSource : String := "generated assets"

/-- The manifests that the generator made, and the experiment among them. -/
structure Assets where
  /-- The manifests. -/
  manifests : ManifestSet
  /-- The experiment. -/
  experiment : Experiment

/-- Read what the generator made of the application of a name. -/
def readAssets (application : String) (data : Bytes) : Except Failure Assets :=
  match ManifestSet.ofBytes generatedSource data with
  | .error e => .error e
  | .ok manifests =>
    match manifests.extractSingle .experiment Experiment.decode with
    | .error e => .error e
    | .ok none =>
      .error (.resolution ("no experiment generated for application " ++ application))
    | .ok (some experiment) => .ok ⟨manifests, experiment⟩

/-- The addresses that a scenario links to. -/
structure Links where
  /-- The address of its application. -/
  application : String
  /-- The address of its template. -/
  template : String
deriving DecidableEq, Repr

/-- The links that a scenario has to have. -/
def requireLinks (s : Scenario) : Except Failure Links :=
  match s.requireLink Link.up "application" with
  | .error e => .error e
  | .ok application =>
    match s.requireLink Link.template "template" with
    | .error e => .error e
    | .ok template => .ok ⟨application, template⟩

/-- Get the assets for a scenario whose links are known. -/
def assetsFor (w : World) (scenario : Scenario) (links : Links) :
    Except Failure Assets × World :=
  let (found, w) := w.withRemote (w.remote.getApplication links.application)
  match found with
  | .error e => (.error e, w)
  | .ok app =>
    let (made, w) := w.generate (app.assemble scenario)
    match made with
    | .error e => (.error e, w)
    | .ok data => (readAssets app.name data, w)

/-- Get the scenario at an address, with the address of its template, and its assets. -/
def prepare (w : World) (url : String) : Except Failure (String × Assets) × World :=
  let (found, w) := w.withRemote (w.remote.getScenario url)
  match found with
  | .error e => (.error e, w)
  | .ok scenario =>
    match requireLinks scenario with
    | .error e => (.error e, w)
    | .ok links =>
      let (assets, w) := assetsFor w scenario links
      (assets.map fun assets => (links.template, assets), w)

/-- Store the template of an experiment. -/
def scan (w : World) (templateUrl : String) (assets : Assets) : ActivityOutcome × World :=
  let template := ExperimentTemplate.ofExperiment assets.experiment
  (.scanned assets.experiment.metadata.name templateUrl,
    { w with remote := w.remote.putTemplate templateUrl template })

/-- Lay the stored template over an experiment and deploy it with the manifests. -/
def deploy (w : World) (templateUrl : String) (assets : Assets) :
    Except Failure ActivityOutcome × World :=
  let (found, w) := w.withRemote (w.remote.getTemplate templateUrl)
  match found with
  | .error e => (.error e, w)
  | .ok template =>
    let experiment := template.overlay assets.experiment
    let (report, cluster) := deployAll w.cluster assets.manifests experiment
    (.ok (.ran experiment.metadata.name report), { w with cluster := cluster })

/-- Do what an activity asks for. -/
def perform (w : World) (item : ActivityItem) : Except Failure ActivityOutcome × World :=
  match item.action with
  | .error e => (.error e, w)
  | .ok action =>
    let (prepared, w) := prepare w item.url
    match prepared with
    | .error e => (.error e, w)
    | .ok (templateUrl, assets) =>
      match action with
      | .scan =>
        let (outcome, w) := scan w templateUrl assets
        (.ok outcome, w)
      | .run => deploy w templateUrl assets

/-- Handle an activity and report about it. -/
def handle (w : World) (item : ActivityItem) : ActivityReport × World :=
  let (outcome, after) := perform w item
  (⟨item.id, item.url, item.action.toOption, outcome⟩, after)

/-- What a turn of the loop finds. -/
structure Turn where
  /-- The next activity. -/
  item : ActivityItem
  /-- Has a stop been requested? -/
  stopped : Bool
  /-- Does anybody listen to reports? -/
  listening : Bool

/-- Send a report behind those that were received. It comes back when nobody listens. -/
def send (listening : Bool) (received : List ActivityReport) (report : ActivityReport) :
    Except ActivityReport (List ActivityReport) :=
  if listening then .ok (received ++ [report]) else .error report

/-- Handle one activity a turn, until a stop is requested or no activity is left. Every report is
sent, and the loop goes on when it comes back. -/
def loop (w : World) (received : List ActivityReport) : List Turn → List ActivityReport × World
  | [] => (received, w)
  | turn :: rest =>
    if turn.stopped then (received, w)
    else
      let (report, w) := handle w turn.item
      match send turn.listening received report with
      | .ok received => loop w received rest
      | .error _ => loop w received rest

/-- Subscribe to activities and handle those that wait, when a stop has been requested before or
not, and when somebody listens to reports or nobody does. -/
def run (w : World) (items : List ActivityItem) (shutdown listening : Bool) :
    List ActivityReport × World :=
  loop { w with remote := w.remote.log .subscribe } []
    (items.map fun item => ⟨item, shutdown, listening⟩)

end Orchestration

end ClusterTuning
