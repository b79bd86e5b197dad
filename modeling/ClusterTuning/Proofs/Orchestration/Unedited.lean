import ClusterTuning.Proofs.Deployment.Frame
import ClusterTuning.Proofs.ExperimentTemplate
import ClusterTuning.Proofs.Orchestration

/-!
# ClusterTuning.Proofs.Orchestration.Unedited

**A template that nobody edits changes nothing.**

A scan stores the projection of an experiment, and a run lays it over the experiment that is
generated anew. If no other scan writes the template in between, the run finds the projection, and
as the generator has made the same experiment again, it deploys exactly what was generated.

What lies in between may deploy too. It cannot keep the cluster from taking the experiment, because
no activity changes what the cluster rejects (`healthy_handleAll`), and the supporting documents
have other objects than the experiment (`find?_deployAll_experiment`).
-/

namespace ClusterTuning.Orchestration

open Deployment (Healthy)

variable {w : World} {url template : String} {assets : Assets}

/-! ### What was generated -/

theorem Yields.isRead (h : Yields w url template assets) :
    ∀ doc ∈ assets.manifests, doc.IsRead := by
  obtain ⟨_, _, _, _, _, _, _, _, _, hmanifests, _⟩ := h
  exact ManifestSet.isRead_of_ofBytes hmanifests

/-- The experiment was read from one of the manifests, which is of its kind. -/
theorem Yields.exists_document (h : Yields w url template assets) :
    ∃ doc : Document, doc.IsRead ∧ doc.kind = .experiment ∧
      Experiment.decode doc.value = .ok assets.experiment := by
  have hread := h.isRead
  obtain ⟨_, _, _, _, _, _, _, _, _, _, hexperiment⟩ := h
  obtain ⟨doc, hdoc, hkind, hdecode⟩ := ManifestSet.exists_of_extractSingle hexperiment
  exact ⟨doc, hread doc hdoc, hkind, hdecode⟩

/-- A scenario yields one experiment at most. -/
theorem Yields.unique {template' : String} {assets' : Assets} (h : Yields w url template assets)
    (h' : Yields w url template' assets') : template' = template ∧ assets' = assets := by
  have hprepare := prepare_of_yields h'
  rw [prepare_of_yields h] at hprepare
  cases hprepare
  exact ⟨rfl, rfl⟩

/-- What is deployed for the experiment is about an object of its kind and its name. -/
theorem Yields.exists_key (h : Yields w url template assets) :
    let doc := Document.ofValue assets.experiment.toValue
    doc.kind = .experiment ∧ doc.name = assets.experiment.metadata.name ∧
      (ResourceKey.ofDocument doc).object =
        ⟨"Experiment", some doc.effectiveNamespace, assets.experiment.metadata.name⟩ := by
  intro doc
  obtain ⟨source, hsource, hsourceKind, hdecode⟩ := h.exists_document
  have hunshadowed := Experiment.unshadowed_of_decode hdecode
  have hkind : doc.kind = .experiment := by
    rw [hunshadowed.kind_ofValue, Experiment.kind_of_decode hsource hsourceKind hdecode]
    rfl
  have hname : doc.name = assets.experiment.metadata.name := hunshadowed.name_ofValue
  refine ⟨hkind, hname, ?_⟩
  simp [ResourceKey.ofDocument, ResourceKey.object, hkind, hname, ResourceKind.name,
    ResourceKind.isClusterScoped]

/-! ### What lies in between -/

/-- No activity changes what the cluster rejects. -/
theorem healthy_handle (h : Healthy w.cluster) (item : ActivityItem) :
    Healthy (handle w item).2.cluster := by
  have hhandling := handling w item
  cases houtcome : (handle w item).1.outcome with
  | error failure =>
      rw [houtcome] at hhandling
      rw [hhandling.of_error.2]
      exact h
  | ok outcome =>
      rw [houtcome] at hhandling
      cases outcome with
      | scanned name template =>
          rw [hhandling.of_scanned.1]
          exact h
      | ran name report =>
          obtain ⟨-, _, assets, stored, hyields, -, -, hdeploy⟩ := hhandling.of_ran
          have hcluster : (handle w item).2.cluster = _ := congrArg Prod.snd hdeploy
          rw [hcluster]
          exact Deployment.healthy_deployAll hyields.isRead _ h

theorem healthy_handleAll (h : Healthy w.cluster) (items : List ActivityItem) :
    Healthy (handleAll w items).2.cluster := by
  induction items generalizing w with
  | nil => exact h
  | cons item rest ih =>
      rw [handleAll_cons]
      exact ih (healthy_handle h item)

/-- What a scan has stored is there as long as no other scan writes it. -/
theorem get?_templates_after_scan {scan : ActivityItem} {between : List ActivityItem}
    (hyields : Yields w scan.url template assets) (hscan : scan.action = .ok .scan)
    (hbetween : ∀ report ∈ (handleAll (handle w scan).2 between).1, ¬ ScannedTo template report) :
    Fields.get? template (handleAll (handle w scan).2 between).2.remote.templates =
      some (.ofExperiment assets.experiment) := by
  have hhandling := handling w scan
  rw [outcome_handle_scan hyields hscan] at hhandling
  obtain ⟨-, assets', hyields', -, htemplates⟩ := hhandling.of_scanned
  rw [get?_templates_handleAll hbetween, htemplates, if_pos rfl, (hyields.unique hyields').2]

/-! ### From a scan to a run -/

/-- After a scan, and activities that do not write its template, a run of the same scenario deploys
the experiment as it was generated: what the scan stored changes nothing about it, also after it was
sent and received, and the cluster holds the experiment as its object, in the namespace in which it
was looked up and with the version of the live object.

The parameters may have any bounds, values, baselines and other fields, and the cluster may hold
anything, as long as it answers and takes updates. -/
theorem run_unedited {scan run : ActivityItem} {between : List ActivityItem}
    (hyields : Yields w scan.url template assets)
    (hname : assets.experiment.metadata.name ≠ "")
    (hparameters : (assets.experiment.spec.parameters.map Parameter.name).Nodup)
    (hmetrics : (assets.experiment.spec.metrics.map Metric.name).Nodup)
    (hscan : scan.action = .ok .scan)
    (hbetween : ∀ report ∈ (handleAll (handle w scan).2 between).1, ¬ ScannedTo template report)
    (hurl : run.url = scan.url) (hrun : run.action = .ok .run)
    (hget : w.cluster.unreachable = []) (hupdate : w.cluster.conflicting = []) :
    let e := assets.experiment
    let ready := (handleAll (handle w scan).2 between).2
    let doc := Document.ofValue e.toValue
    let id : ObjectId := ⟨"Experiment", some doc.effectiveNamespace, e.metadata.name⟩
    let stored := Deployment.written doc ((ready.cluster.find? id).bind Deployment.resourceVersion?)
    (handle w scan).1.outcome = .ok (.scanned e.metadata.name template) ∧
      (ExperimentTemplate.ofExperiment e).overlay e = e ∧
      (∃ received,
        ExperimentTemplate.decode (ExperimentTemplate.ofExperiment e).encode.canonical =
          .ok received ∧ received.overlay e = e) ∧
      (handle ready run).1.outcome =
        .ok (.ran e.metadata.name (deployAll ready.cluster assets.manifests e).1) ∧
      (handle ready run).2.cluster = (deployAll ready.cluster assets.manifests e).2 ∧
      (handle ready run).2.cluster.find? id = some stored ∧
      Deployment.Upserted doc (ready.cluster.find? id) stored := by
  intro e ready doc id stored
  have hoverlay : (ExperimentTemplate.ofExperiment e).overlay e = e :=
    ExperimentTemplate.overlay_ofExperiment hparameters hmetrics
  obtain ⟨source, hsource, -, hdecode⟩ := hyields.exists_document
  have hreceived := ExperimentTemplate.reads_ofExperiment
    (Experiment.isRead_of_mem_parameters hsource.isCanonical hdecode)
  -- the generator makes the same experiment again
  have hagain : Yields ready run.url template assets := by
    rw [hurl, (sameSources_handleAll _ between).yields_iff,
      (handling w scan).sameSources.yields_iff]
    exact hyields
  obtain ⟨houtcome, hcluster⟩ :=
    handle_run hagain hrun (get?_templates_after_scan hyields hscan hbetween)
  rw [hoverlay] at houtcome hcluster
  have hhealthy : Healthy ready.cluster :=
    healthy_handleAll (healthy_handle ⟨hget, hupdate⟩ scan) between
  obtain ⟨hkind, hdocName, hid⟩ := hyields.exists_key
  have hdoc : Deployment.Deployable doc :=
    ⟨Deployment.isRead_ofValue_toValue e, by rw [hdocName]; exact hname⟩
  refine ⟨outcome_handle_scan hyields hscan, hoverlay, ⟨_, hreceived, hoverlay⟩, houtcome,
    hcluster, ?_, Deployment.written_upserted hdoc (by rw [hkind]; rfl) _⟩
  rw [hcluster]
  exact Deployment.find?_deployAll_experiment hyields.isRead hkind hdoc.name_ne hid hhealthy

/-- A parameter with one bound and a field that nobody knows comes through a scan and two runs,
although its template mentions neither. -/
theorem run_unedited_shop :
    let text := "apiVersion: v1\nkind: Experiment\nmetadata:\n  name: c\n" ++
      "spec:\n  parameters:\n  - name: cpu\n    min: 1\n    unit: m\n"
    let w : World := {
      remote := {
        scenarios := [("s", { name := "s", links := [⟨"up", "a"⟩, ⟨"template", "t"⟩] })]
        applications := [("a", { name := "a" })] }
      generator := fun _ => .ok (Text.encode text) }
    let e : Experiment := {
      apiVersion := "v1", kind := "Experiment", metadata := { name := "c" }
      spec := {
        parameters := [{ name := "cpu", min := some 1, other := [("unit", .string "m")] }] } }
    let scan : ActivityItem := { url := "s", tags := [.scan] }
    let run : ActivityItem := { url := "s", tags := [.run] }
    let ready := (handleAll (handle w scan).2 [run]).2
    ∃ set : ManifestSet, (handle ready run).1.outcome =
      .ok (.ran "c" (deployAll ready.cluster set e).1) := by
  intro text w e scan run ready
  have hread : ManifestSet.ofBytes generatedSource (Text.encode text) =
      .ok [⟨.experiment, .object [("apiVersion", .string "v1"), ("kind", .string "Experiment"),
        ("metadata", .object [("name", .string "c")]),
        ("spec", .object [("parameters", .array [.object [("min", .ofInt 1),
          ("name", .string "cpu"), ("unit", .string "m")]])])]⟩] := by
    decide +kernel
  have hyields : Yields w scan.url "t" ⟨_, e⟩ :=
    ⟨_, _, _, _, rfl, rfl, rfl, rfl, rfl, hread, rfl⟩
  have hbetween : ∀ report ∈ (handleAll (handle w scan).2 [run]).1, ¬ ScannedTo "t" report := by
    intro report hreport hscanned
    rw [List.mem_singleton.mp hreport] at hscanned
    cases action_of_scannedTo hscanned
  have hurl : run.url = scan.url := rfl
  exact ⟨_, (run_unedited hyields (by decide) (by decide) (by decide) rfl hbetween hurl rfl rfl
    rfl).2.2.2.1⟩

end ClusterTuning.Orchestration
