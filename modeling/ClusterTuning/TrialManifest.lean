import ClusterTuning.Input
import ClusterTuning.Orchestration
import ClusterTuning.Overlay

/-!
# ClusterTuning.TrialManifest

**The manifest of a trial, from local inputs.**

The inputs describe an experiment, or an application of which the generator makes one. The trial is
looked up by the name of the experiment. With an application, the manifest consists of the resources
that the application names and of what the generator made; without one, of all inputs.

Nothing is given out unless every step succeeds.
-/

namespace ClusterTuning

/-- Where trials are looked up and manifests are made, with a state `σ` behind it. -/
structure TrialService (σ : Type) where
  /-- Ask for an experiment by its name. -/
  experiment : String → σ → Except Failure ExperimentItem × σ
  /-- Ask for the trials that are listed at an address and are in one of the states. -/
  trials : String → List TrialStatus → σ → Except Failure TrialList × σ
  /-- Make manifests of an application. -/
  generate : Application → σ → Except Failure Bytes × σ

/-- The services of a world. -/
def World.trialService : TrialService World where
  experiment name w := w.withRemote (w.remote.getExperiment name)
  trials url states w := w.withRemote (w.remote.getTrials url states)
  generate app w := w.generate app

namespace TrialManifest

/-- What the inputs hold. -/
structure Gathered where
  /-- The inputs by name. -/
  files : FileSet
  /-- Their names in order of appearance. -/
  names : List String
  /-- The application among them. -/
  application? : Option Application
  /-- The experiment among them. -/
  experiment? : Option Experiment

/-- Read the inputs. -/
def gather (reader : FileReader) (stdin : Bytes) (paths : List String) :
    Except Failure Gathered := do
  let (names, files) := readInputs reader stdin paths FileSet.empty
  let names ← names
  let inputs ← ManifestSet.aggregate files names
  let application? ← inputs.extractSingle .application Application.decode
  let experiment? ← inputs.extractSingle .experiment Experiment.decode
  return ⟨files, names, application?, experiment?⟩

/-- What the manifest is made of. -/
structure Workload where
  /-- The files by name. -/
  files : FileSet
  /-- The names of those that belong to the manifest. -/
  resources : List String
  /-- The experiment. -/
  experiment? : Option Experiment

/-- The name of the file for the generated document at a place. -/
def assetName (index : Nat) : String :=
  "application-assets" ++ String.ofList (Decimal.natDigits index) ++ ".yaml"

/-- Documents as files, of which the first is numbered `index`. -/
def assetFiles : Nat → ManifestSet → List (String × Bytes)
  | _, [] => []
  | index, doc :: rest =>
    (assetName index, Text.encode (Yaml.write doc.value)) :: assetFiles (index + 1) rest

/-- The first experiment that the generator made. -/
def generatedExperiment? (assets : ManifestSet) : Except Failure (Option Experiment) :=
  match assets.ofKind .experiment with
  | [] => .ok none
  | doc :: _ =>
    match Experiment.decode doc.value with
    | .ok experiment => .ok (some experiment)
    | .error e => .error (.input "generated experiment" e.message)

/-- The workload of an application: the resources it names, and every document that the generator
made. An experiment that was made wins over one among the inputs. -/
def withAssets (g : Gathered) (app : Application) (data : Bytes) : Except Failure Workload :=
  match ManifestSet.ofBytes Orchestration.generatedSource data with
  | .error e => .error e
  | .ok assets =>
    match generatedExperiment? assets with
    | .error e => .error e
    | .ok generated =>
      let made := assetFiles 0 assets
      .ok {
        files := made.foldl (fun files file => files.write file.1 file.2) g.files
        resources := app.resourceNames ++ made.map Prod.fst
        experiment? := generated.or g.experiment? }

/-- The workload of inputs. The generator is only used for an application. -/
def workload {σ : Type} (service : TrialService σ) (g : Gathered) (s : σ) :
    Except Failure Workload × σ :=
  match g.application? with
  | none => (.ok ⟨g.files, g.names, g.experiment?⟩, s)
  | some app =>
    let (made, s) := service.generate app s
    match made with
    | .error e => (.error e, s)
    | .ok data => (withAssets g app data, s)

/-- Look up a completed trial of an experiment. -/
def resolveTrial {σ : Type} (service : TrialService σ) (experiment : String) (number : Nat)
    (s : σ) : Except Failure TrialItem × σ :=
  let (found, s) := service.experiment experiment s
  match found with
  | .error e => (.error e, s)
  | .ok item =>
    if item.trialsUrl = "" then (.error (.unresolvableTrial experiment), s)
    else
      let (listed, s) := service.trials item.trialsUrl [.completed] s
      match listed with
      | .error e => (.error e, s)
      | .ok list => (selectTrial list.trials number experiment, s)

/-- Render the patches of a trial and lay them over the resources. -/
def finish (w : Workload) (experiment : Experiment) (item : TrialItem) : Except Failure String :=
  match renderPatches experiment.spec.patches (Trial.ofItem experiment item) with
  | .error e => .error e
  | .ok patches => compose w.files w.resources patches

/-- Make the manifest of a workload for the trial of a number. -/
def complete {σ : Type} (service : TrialService σ) (number : Nat) (w : Workload) (s : σ) :
    Except Failure String × σ :=
  match w.experiment? with
  | none => (.error (.resolution "unable to identify an experiment or application"), s)
  | some experiment =>
    let (item, s) := resolveTrial service experiment.metadata.name number s
    match item with
    | .error e => (.error e, s)
    | .ok item => (finish w experiment item, s)

end TrialManifest

open TrialManifest in
/-- Make the manifest of a trial from inputs. The number of the trial has to be known first. -/
def trialManifest {σ : Type} (service : TrialService σ) (selector : TrialSelector)
    (reader : FileReader) (stdin : Bytes) (paths : List String) (s : σ) :
    Except Failure String × σ :=
  match selector.number with
  | .error e => (.error e, s)
  | .ok number =>
    match gather reader stdin paths with
    | .error e => (.error e, s)
    | .ok g =>
      let (w, s) := workload service g s
      match w with
      | .error e => (.error e, s)
      | .ok w => complete service number w s

end ClusterTuning
