import ClusterTuning.Proofs.TrialManifest.Lookup

/-!
# ClusterTuning.Proofs.TrialManifest.Ambiguity

**What becomes of several generated experiments.**

Activities and manifests both read what the generator made, and they differ in what they take for
the experiment. To an activity several experiments are ambiguous: it ends before a template is read
or anything is changed. A manifest is for the first of them, and the others are among its resources.

## Main statements

* `Orchestration.handle_of_several`: an activity fails.
* `TrialManifest.exists_resolving_of_several`: for a manifest, the trial of the first experiment is
  looked up.
-/

namespace ClusterTuning

/-- Several documents of a kind are refused before any of them is decoded. -/
theorem ManifestSet.extractSingle_of_several {α : Type} {kind : ResourceKind} {set : ManifestSet}
    (h : 2 ≤ (set.ofKind kind).length) (decode : Value → Decoded α) :
    set.extractSingle kind decode =
      .error (.resolution ("expected at most one " ++ kind.name ++ ", found several")) := by
  rw [extractSingle]
  match hset : set.ofKind kind with
  | [] | [_] => simp [hset] at h
  | _ :: _ :: _ => rfl

variable {w : World} {data : Bytes} {assets : ManifestSet}

/-! ### Activities -/

namespace Orchestration

/-- Where what the generator made cannot be read, nothing but that is done. -/
theorem prepare_of_unreadable {url : String} {scenario : Scenario} {links : Links}
    {app : StoredApplication} {failure : Failure}
    (found : Fields.get? url w.remote.scenarios = some scenario)
    (linked : requireLinks scenario = .ok links)
    (known : Fields.get? links.application w.remote.applications = some app)
    (generated : w.generator (app.assemble scenario) = .ok data)
    (unreadable : readAssets app.name data = .error failure) :
    prepare w url =
      (.error failure, w.having [.scenario url, .application links.application] 1) := by
  unfold prepare
  rw [withRemote_getScenario, found]
  simp only [Remote.answer, linked, assetsFor, withRemote_getApplication, known, generate_having,
    generated, unreadable, Except.map]
  rfl

/-- An activity whose generator prints several experiments fails, and no template is asked for or
stored. -/
theorem handle_of_several {item : ActivityItem} {action : Action} {scenario : Scenario}
    {links : Links} {app : StoredApplication} (asked : item.action = .ok action)
    (found : Fields.get? item.url w.remote.scenarios = some scenario)
    (linked : requireLinks scenario = .ok links)
    (known : Fields.get? links.application w.remote.applications = some app)
    (generated : w.generator (app.assemble scenario) = .ok data)
    (read : ManifestSet.ofBytes generatedSource data = .ok assets)
    (several : 2 ≤ (assets.ofKind .experiment).length) :
    (handle w item).1.outcome =
        .error (.resolution "expected at most one Experiment, found several") ∧
      (handle w item).2 =
        w.having [.scenario item.url, .application links.application] 1 := by
  have unreadable : readAssets app.name data =
      .error (.resolution "expected at most one Experiment, found several") := by
    simp only [readAssets, read, ManifestSet.extractSingle_of_several several]
    rfl
  have hprepare := prepare_of_unreadable found linked known generated unreadable
  constructor <;> simp only [handle, perform, asked, hprepare]

end Orchestration

/-! ### Manifests -/

namespace TrialManifest

variable {selector : TrialSelector} {reader : FileReader} {stdin : Bytes} {paths : List String}
  {number : Nat} {g : Gathered} {app : Application} {doc : Document} {rest : ManifestSet}

/-- A generated experiment that cannot be decoded is a failure of the input, before anything is
asked for. -/
theorem trialManifest_of_undecodable (hnumber : selector.number = .ok number)
    (hg : gather reader stdin paths = .ok g) (happ : g.application? = some app)
    (hdata : w.generator app = .ok data)
    (hassets : ManifestSet.ofBytes Orchestration.generatedSource data = .ok assets)
    (hfirst : assets.ofKind .experiment = doc :: rest) {mismatch : Mismatch}
    (hdecode : Experiment.decode doc.value = .error mismatch) :
    trialManifest World.trialService selector reader stdin paths w =
      (.error (.input "generated experiment" mismatch.message), w.having [] 1) := by
  simp only [trialManifest, hnumber, hg, workload_of_application happ, hdata, Except.bind,
    withAssets, hassets, generatedExperiment?, hfirst, hdecode]

/-- With several experiments made, the trial of the first is looked up, and the patches of that
experiment are laid over the resources of the application and all that was made. -/
theorem exists_resolving_of_several (hnumber : selector.number = .ok number)
    (hg : gather reader stdin paths = .ok g) (happ : g.application? = some app)
    (hdata : w.generator app = .ok data)
    (hassets : ManifestSet.ofBytes Orchestration.generatedSource data = .ok assets)
    (hfirst : assets.ofKind .experiment = doc :: rest) {first : Experiment}
    (hdecode : Experiment.decode doc.value = .ok first) :
    ∃ calls found, trialManifest World.trialService selector reader stdin paths w =
        (found.bind fun t => (renderPatches first.spec.patches (Trial.ofItem first t)).bind
          (compose (g.files.writeAll (assetFiles 0 assets))
            (app.resourceNames ++ assetNames assets)), w.having calls 1) ∧
      Resolving w.remote first.metadata.name number calls found := by
  have hgenerated : generatedExperiment? assets = .ok (some first) := by
    simp only [generatedExperiment?, hfirst, hdecode]
  have hwork : Furnished w.generator g ⟨g.files.writeAll (assetFiles 0 assets),
      app.resourceNames ++ assetNames assets, some first⟩ :=
    .assets happ hdata hassets hgenerated
  have huses : g.uses = 1 := by
    rw [Gathered.uses, happ, Option.isSome_some, if_pos rfl]
  obtain ⟨calls, found, hrun, hresolving⟩ := trialManifest_of_furnished hnumber hg hwork rfl
  rw [huses, funext (finish_eq _ first)] at hrun
  exact ⟨calls, found, hrun, hresolving⟩

end TrialManifest

open Orchestration TrialManifest in
/-- Of several generated experiments none is taken by an activity: it fails before a template is
read or anything is changed. A manifest takes the first one, if it can be read, looks up its trial,
and has the patches of that experiment laid over the resources and all that was made. -/
theorem experiment_of_several
    (read : ManifestSet.ofBytes generatedSource data = .ok assets)
    (several : 2 ≤ (assets.ofKind .experiment).length) :
    (∀ item action scenario links app, ActivityItem.action item = .ok action →
      Fields.get? item.url w.remote.scenarios = some scenario →
      requireLinks scenario = .ok links →
      Fields.get? links.application w.remote.applications = some app →
      w.generator (app.assemble scenario) = .ok data →
      (handle w item).1.outcome =
          .error (.resolution "expected at most one Experiment, found several") ∧
        (handle w item).2 =
          w.having [.scenario item.url, .application links.application] 1) ∧
    ∀ selector reader stdin paths number g app, TrialSelector.number selector = .ok number →
      gather reader stdin paths = .ok g → g.application? = some app →
      w.generator app = .ok data →
      ∃ doc rest, assets.ofKind .experiment = doc :: rest ∧
        (∀ mismatch, Experiment.decode doc.value = .error mismatch →
          trialManifest World.trialService selector reader stdin paths w =
            (.error (.input "generated experiment" mismatch.message), w.having [] 1)) ∧
        ∀ first, Experiment.decode doc.value = .ok first →
          ∃ calls found, trialManifest World.trialService selector reader stdin paths w =
              (found.bind fun t => (renderPatches first.spec.patches (Trial.ofItem first t)).bind
                (compose (g.files.writeAll (assetFiles 0 assets))
                  (app.resourceNames ++ assetNames assets)), w.having calls 1) ∧
            Resolving w.remote first.metadata.name number calls found := by
  constructor
  · intro item action scenario links app asked found linked known generated
    exact handle_of_several asked found linked known generated read several
  · intro selector reader stdin paths number g app hnumber hg happ hdata
    obtain ⟨doc, rest, hfirst⟩ :=
      List.exists_cons_of_length_pos (Nat.lt_of_lt_of_le Nat.two_pos several)
    exact ⟨doc, rest, hfirst,
      fun _ => trialManifest_of_undecodable hnumber hg happ hdata read hfirst,
      fun _ => exists_resolving_of_several hnumber hg happ hdata read hfirst⟩

/-! ### Two experiments for one application, as an instance -/

/-- An experiment of which only the name is known. -/
def namedExperiment (name : String) : Document :=
  ⟨.experiment, .object [("apiVersion", .string "v1"), ("kind", .string "Experiment"),
    ("metadata", .object [("name", .string name)])]⟩

/-- Two experiments. -/
def twoExperiments : Bytes :=
  Text.encode ("apiVersion: v1\nkind: Experiment\nmetadata:\n  name: first\n---\n" ++
    "apiVersion: v1\nkind: Experiment\nmetadata:\n  name: second\n")

/-- Knows a trial of the first experiment. The generator makes both of them of any application. -/
def twoWorld : World where
  remote := Remote.addTrial "first" 1 [] {
    scenarios := [("s", { name := "s", links := [⟨"up", "a"⟩, ⟨"template", "t"⟩] })]
    applications := [("a", { name := "a" })] }
  generator := fun _ => .ok twoExperiments

/-- Holds an application. -/
def twoReader : FileReader := fun _ =>
  .ok (Text.encode ("apiVersion: apps.trialctl.dev/v1alpha1\nkind: Application\n" ++
    "metadata:\n  name: shop\n"))

theorem ofBytes_twoExperiments : ManifestSet.ofBytes Orchestration.generatedSource twoExperiments =
    .ok [namedExperiment "first", namedExperiment "second"] := by
  decide +kernel

theorem exists_gather_twoReader : ∃ g app, TrialManifest.gather twoReader [] ["app.yaml"] = .ok g ∧
    g.application? = some app := by
  have hinputs : (TrialManifest.gather twoReader [] ["app.yaml"]).map
      (fun g => g.application?.isSome) = .ok true := by
    decide +kernel
  obtain ⟨g, hg, happlication⟩ := map_eq_ok_iff.mp hinputs
  obtain ⟨app, happ⟩ := Option.isSome_iff_exists.mp happlication
  exact ⟨g, app, hg, happ⟩

open Orchestration TrialManifest in
/-- A scan of a scenario of the application fails, and the manifest is for the first experiment. -/
theorem experiment_of_several_shop :
    ((handle twoWorld { url := "s", tags := [.scan] }).1.outcome =
        .error (.resolution "expected at most one Experiment, found several") ∧
      (handle twoWorld { url := "s", tags := [.scan] }).2 =
        twoWorld.having [.scenario "s", .application "a"] 1) ∧
    ∃ g app first calls found, gather twoReader [] ["app.yaml"] = .ok g ∧
      g.application? = some app ∧ first.metadata.name = "first" ∧
      trialManifest World.trialService (.byNumber 1) twoReader [] ["app.yaml"] twoWorld =
        (found.bind fun t => (renderPatches first.spec.patches (Trial.ofItem first t)).bind
          (compose (g.files.writeAll
              (assetFiles 0 [namedExperiment "first", namedExperiment "second"]))
            (app.resourceNames ++ ["application-assets0.yaml", "application-assets1.yaml"])),
          twoWorld.having calls 1) ∧
      Resolving twoWorld.remote first.metadata.name 1 calls found := by
  obtain ⟨hactivity, hmanifest⟩ :=
    experiment_of_several (w := twoWorld) ofBytes_twoExperiments (by decide)
  obtain ⟨g, app, hg, happ⟩ := exists_gather_twoReader
  refine ⟨hactivity _ .scan _ ⟨"a", "t"⟩ { name := "a" } rfl rfl rfl rfl rfl, ?_⟩
  obtain ⟨doc, rest, hfirst, -, hrun⟩ :=
    hmanifest (.byNumber 1) twoReader [] ["app.yaml"] 1 g app rfl hg happ rfl
  cases hfirst
  obtain ⟨calls, found, hmade, hresolving⟩ := hrun _ rfl
  have hnames : assetNames [namedExperiment "first", namedExperiment "second"] =
      ["application-assets0.yaml", "application-assets1.yaml"] := by
    decide +kernel
  rw [hnames] at hmade
  exact ⟨g, app, _, calls, found, hg, happ, rfl, hmade, hresolving⟩

open Orchestration TrialManifest in
/-- With two experiments made of an application, the trial of the first one is looked up, and the
manifest is given out. -/
theorem several_experiments_accepted :
    ManifestSet.ofBytes generatedSource twoExperiments =
      .ok [namedExperiment "first", namedExperiment "second"] ∧
    (∃ g app, gather twoReader [] ["app.yaml"] = .ok g ∧ g.application? = some app ∧
      twoWorld.generator app = .ok twoExperiments) ∧
    (trialManifest World.trialService (.byNumber 1) twoReader [] ["app.yaml"] twoWorld).map id
        (fun after => after.remote.calls) =
      (.ok (ManifestSet.toYaml [namedExperiment "first", namedExperiment "second"]),
        [.experiment "first", .trials [.completed]]) := by
  obtain ⟨g, app, hg, happ⟩ := exists_gather_twoReader
  exact ⟨ofBytes_twoExperiments, ⟨g, app, hg, happ, rfl⟩, by decide +kernel⟩

end ClusterTuning
