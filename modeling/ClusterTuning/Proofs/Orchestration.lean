import ClusterTuning.Orchestration
import ClusterTuning.Proofs.OrderedFields

/-!
# ClusterTuning.Proofs.Orchestration

**Activities have one effect, and they have it last.**

Handling an activity is a chain of steps that may fail, up to the one that changes something. The
endings of the chain are two relations, `Preparing` for what scans and runs have in common and
`Handling` for the whole; up to the last step nothing but the calls and the uses of the generator
are counted (`World.having`).

What activities draw on, the scenarios, the applications and the generator, is never changed, so
what a scenario yields (`Yields`) is the same throughout a sequence of activities. That is why the
template at an address can be told from the last scan for it alone.

## Main statements

* `exists_preparing`, `exists_handling`: the endings of an activity.
* `world_loop`: what the loop leaves, whoever listens.
* `get?_templates_handleAll`: a template changes by scans for its address only.
* `activities_allOrNothing`: what an activity changes by its outcome, and what a sequence of
  activities leaves.
-/

namespace ClusterTuning

/-- The world after some calls of the remote API and uses of the generator. -/
def World.having (calls : List RemoteCall) (uses : Nat) (w : World) : World :=
  { w with
    remote := { w.remote with calls := w.remote.calls ++ calls }
    generated := w.generated + uses }

namespace Orchestration

/-! ### What a scenario yields -/

/-- The scenario at an address links to a template, and these assets are what the generator makes
of the application that it belongs to. -/
def Yields (w : World) (url template : String) (assets : Assets) : Prop :=
  ∃ scenario application app data,
    Fields.get? url w.remote.scenarios = some scenario ∧
    scenario.link? Link.up = some application ∧
    scenario.link? Link.template = some template ∧
    Fields.get? application w.remote.applications = some app ∧
    w.generator (app.assemble scenario) = .ok data ∧
    ManifestSet.ofBytes generatedSource data = .ok assets.manifests ∧
    assets.manifests.extractSingle .experiment Experiment.decode = .ok (some assets.experiment)

/-- Two worlds in which activities draw on the same scenarios, applications and generator. -/
structure SameSources (w w' : World) : Prop where
  /-- The scenarios are the same. -/
  scenarios : w'.remote.scenarios = w.remote.scenarios
  /-- The applications are the same. -/
  applications : w'.remote.applications = w.remote.applications
  /-- The generator is the same. -/
  generator : w'.generator = w.generator

theorem SameSources.refl (w : World) : SameSources w w :=
  ⟨rfl, rfl, rfl⟩

theorem SameSources.trans {w w' w'' : World} (h : SameSources w w') (h' : SameSources w' w'') :
    SameSources w w'' :=
  ⟨h'.scenarios.trans h.scenarios, h'.applications.trans h.applications,
    h'.generator.trans h.generator⟩

theorem SameSources.yields_iff {w w' : World} (h : SameSources w w') {url template : String}
    {assets : Assets} : Yields w' url template assets ↔ Yields w url template assets := by
  rw [Yields, h.scenarios, h.applications, h.generator, Yields]

theorem requireLink_eq_ok_iff {scenario : Scenario} {rel href : String} (what : String) :
    scenario.requireLink rel what = .ok href ↔ scenario.link? rel = some href := by
  unfold Scenario.requireLink
  split <;> simp_all

/-- The links of a scenario are those under its two relations, and both have to be there. -/
theorem requireLinks_eq_ok_iff {scenario : Scenario} {links : Links} :
    requireLinks scenario = .ok links ↔
      scenario.link? Link.up = some links.application ∧
        scenario.link? Link.template = some links.template := by
  rw [← requireLink_eq_ok_iff "application", ← requireLink_eq_ok_iff "template"]
  constructor
  · intro h
    unfold requireLinks at h
    split at h
    · cases h
    rename_i application happlication
    split at h
    · cases h
    rename_i template htemplate
    cases h
    exact ⟨happlication, htemplate⟩
  · rintro ⟨happlication, htemplate⟩
    simp only [requireLinks, happlication, htemplate]

/-- The assets are the documents that were generated, and the one experiment among them. -/
theorem readAssets_eq_ok_iff {application : String} {data : Bytes} {assets : Assets} :
    readAssets application data = .ok assets ↔
      ManifestSet.ofBytes generatedSource data = .ok assets.manifests ∧
        assets.manifests.extractSingle .experiment Experiment.decode =
          .ok (some assets.experiment) := by
  constructor
  · intro h
    unfold readAssets at h
    split at h
    · cases h
    rename_i manifests hmanifests
    split at h
    · cases h
    · cases h
    rename_i experiment hexperiment
    cases h
    exact ⟨hmanifests, hexperiment⟩
  · rintro ⟨hmanifests, hexperiment⟩
    simp only [readAssets, hmanifests, hexperiment]

/-! ### Preparing -/

/-- How getting the assets for an activity ends. The calls that were made tell how far it came. -/
inductive Preparing (w : World) (url : String) :
    Except Failure (String × Assets) → World → Prop where
  /-- There is no scenario at the address. -/
  | noScenario (absent : Fields.get? url w.remote.scenarios = none) :
      Preparing w url (.error (.remoteApi "get scenario" ("API error (404 Not Found): " ++ url)))
        (w.having [.scenario url] 0)
  /-- The scenario lacks one of its links. -/
  | unlinked {scenario : Scenario} {failure : Failure}
      (found : Fields.get? url w.remote.scenarios = some scenario)
      (unlinked : requireLinks scenario = .error failure) :
      Preparing w url (.error failure) (w.having [.scenario url] 0)
  /-- There is no application at the address that the scenario links to. -/
  | noApplication {scenario : Scenario} {links : Links}
      (found : Fields.get? url w.remote.scenarios = some scenario)
      (linked : requireLinks scenario = .ok links)
      (absent : Fields.get? links.application w.remote.applications = none) :
      Preparing w url
        (.error (.remoteApi "get application" ("API error (404 Not Found): " ++ links.application)))
        (w.having [.scenario url, .application links.application] 0)
  /-- The generator fails. -/
  | notGenerated {scenario : Scenario} {links : Links} {app : StoredApplication}
      {failure : Failure} (found : Fields.get? url w.remote.scenarios = some scenario)
      (linked : requireLinks scenario = .ok links)
      (known : Fields.get? links.application w.remote.applications = some app)
      (failed : w.generator (app.assemble scenario) = .error failure) :
      Preparing w url (.error failure)
        (w.having [.scenario url, .application links.application] 1)
  /-- What the generator made is no manifest with a single experiment. -/
  | unreadable {scenario : Scenario} {links : Links} {app : StoredApplication} {data : Bytes}
      {failure : Failure} (found : Fields.get? url w.remote.scenarios = some scenario)
      (linked : requireLinks scenario = .ok links)
      (known : Fields.get? links.application w.remote.applications = some app)
      (generated : w.generator (app.assemble scenario) = .ok data)
      (unreadable : readAssets app.name data = .error failure) :
      Preparing w url (.error failure)
        (w.having [.scenario url, .application links.application] 1)
  /-- The assets are there. -/
  | ready {scenario : Scenario} {links : Links} {app : StoredApplication} {data : Bytes}
      {assets : Assets} (found : Fields.get? url w.remote.scenarios = some scenario)
      (linked : requireLinks scenario = .ok links)
      (known : Fields.get? links.application w.remote.applications = some app)
      (generated : w.generator (app.assemble scenario) = .ok data)
      (read : readAssets app.name data = .ok assets) :
      Preparing w url (.ok (links.template, assets))
        (w.having [.scenario url, .application links.application] 1)

theorem withRemote_getScenario (w : World) (url : String) :
    w.withRemote (w.remote.getScenario url) =
      (Remote.answer "get scenario" url (Fields.get? url w.remote.scenarios),
        w.having [.scenario url] 0) := rfl

theorem withRemote_getApplication (w : World) (calls : List RemoteCall) (uses : Nat)
    (url : String) :
    (w.having calls uses).withRemote ((w.having calls uses).remote.getApplication url) =
      (Remote.answer "get application" url (Fields.get? url w.remote.applications),
        w.having (calls ++ [.application url]) uses) := by
  simp [World.having, World.withRemote, Remote.getApplication, Remote.log]

theorem generate_having (w : World) (calls : List RemoteCall) (uses : Nat) (app : Application) :
    (w.having calls uses).generate app = (w.generator app, w.having calls (uses + 1)) := rfl

/-- Getting the assets ends in one of these ways. -/
theorem exists_preparing (w : World) (url : String) :
    ∃ prepared after, prepare w url = (prepared, after) ∧ Preparing w url prepared after := by
  unfold prepare
  rw [withRemote_getScenario]
  cases hscenario : Fields.get? url w.remote.scenarios with
  | none => exact ⟨_, _, rfl, .noScenario hscenario⟩
  | some scenario =>
  simp only [Remote.answer]
  cases hlinks : requireLinks scenario with
  | error failure => exact ⟨_, _, rfl, .unlinked hscenario hlinks⟩
  | ok links =>
  simp only [assetsFor, withRemote_getApplication]
  cases happ : Fields.get? links.application w.remote.applications with
  | none => exact ⟨_, _, rfl, .noApplication hscenario hlinks happ⟩
  | some app =>
  simp only [Remote.answer]
  rw [generate_having]
  cases hdata : w.generator (app.assemble scenario) with
  | error failure => exact ⟨_, _, rfl, .notGenerated hscenario hlinks happ hdata⟩
  | ok data =>
  simp only
  cases hread : readAssets app.name data with
  | error failure => exact ⟨_, _, rfl, .unreadable hscenario hlinks happ hdata hread⟩
  | ok assets => exact ⟨_, _, rfl, .ready hscenario hlinks happ hdata hread⟩

/-- Until the assets are there nothing is changed. -/
theorem Preparing.exists_having {w after : World} {url : String}
    {prepared : Except Failure (String × Assets)} (h : Preparing w url prepared after) :
    ∃ calls uses, after = w.having calls uses := by
  cases h <;> exact ⟨_, _, rfl⟩

theorem Preparing.yields {w after : World} {url template : String} {assets : Assets}
    (h : Preparing w url (.ok (template, assets)) after) : Yields w url template assets := by
  cases h with
  | ready found linked known generated read =>
      obtain ⟨hup, htemplate⟩ := requireLinks_eq_ok_iff.mp linked
      obtain ⟨hmanifests, hexperiment⟩ := readAssets_eq_ok_iff.mp read
      exact ⟨_, _, _, _, found, hup, htemplate, known, generated, hmanifests, hexperiment⟩

/-- A scenario that yields assets is prepared with them. -/
theorem prepare_of_yields {w : World} {url template : String} {assets : Assets}
    (h : Yields w url template assets) : (prepare w url).1 = .ok (template, assets) := by
  obtain ⟨scenario, application, app, data, found, hup, htemplate, known, generated, hmanifests,
    hexperiment⟩ := h
  have linked : requireLinks scenario = .ok ⟨application, template⟩ :=
    requireLinks_eq_ok_iff.mpr ⟨hup, htemplate⟩
  have read : readAssets app.name data = .ok assets :=
    readAssets_eq_ok_iff.mpr ⟨hmanifests, hexperiment⟩
  unfold prepare
  rw [withRemote_getScenario, found]
  simp only [Remote.answer, linked, assetsFor, withRemote_getApplication, known, generate_having,
    generated, read, Except.map]

/-! ### Handling -/

/-- How handling an activity ends. Only the endings of a scan and of a run change something. -/
inductive Handling (w : World) (item : ActivityItem) :
    Except Failure ActivityOutcome → World → Prop where
  /-- It is not clear what the activity asks for. -/
  | unclear {failure : Failure} (unclear : item.action = .error failure) :
      Handling w item (.error failure) w
  /-- There are no assets. -/
  | unprepared {action : Action} {failure : Failure} {after : World}
      (asked : item.action = .ok action)
      (preparing : Preparing w item.url (.error failure) after) :
      Handling w item (.error failure) after
  /-- The template is stored. -/
  | scanned {template : String} {assets : Assets} {ready : World}
      (asked : item.action = .ok .scan)
      (preparing : Preparing w item.url (.ok (template, assets)) ready) :
      Handling w item (.ok (.scanned assets.experiment.metadata.name template))
        { ready with
          remote := ready.remote.putTemplate template (.ofExperiment assets.experiment) }
  /-- There is no template to run with. -/
  | unstored {template : String} {assets : Assets} {ready : World}
      (asked : item.action = .ok .run)
      (preparing : Preparing w item.url (.ok (template, assets)) ready)
      (absent : Fields.get? template w.remote.templates = none) :
      Handling w item
        (.error (.remoteApi "get template" ("API error (404 Not Found): " ++ template)))
        (ready.having [.template template] 0)
  /-- The experiment is deployed with what the stored template says. -/
  | ran {template : String} {assets : Assets} {ready : World} {stored : ExperimentTemplate}
      (asked : item.action = .ok .run)
      (preparing : Preparing w item.url (.ok (template, assets)) ready)
      (known : Fields.get? template w.remote.templates = some stored) :
      Handling w item
        (.ok (.ran assets.experiment.metadata.name
          (deployAll w.cluster assets.manifests (stored.overlay assets.experiment)).1))
        { ready.having [.template template] 0 with
          cluster := (deployAll w.cluster assets.manifests (stored.overlay assets.experiment)).2 }

theorem withRemote_getTemplate (w : World) (url : String) :
    w.withRemote (w.remote.getTemplate url) =
      (Remote.answer "get template" url (Fields.get? url w.remote.templates),
        w.having [.template url] 0) := rfl

/-- Handling an activity ends in one of these ways. -/
theorem exists_handling (w : World) (item : ActivityItem) :
    ∃ outcome after, perform w item = (outcome, after) ∧ Handling w item outcome after := by
  unfold perform
  cases haction : item.action with
  | error failure => exact ⟨_, _, rfl, .unclear haction⟩
  | ok action =>
  simp only
  obtain ⟨prepared, ready, hprepare, hpreparing⟩ := exists_preparing w item.url
  rw [hprepare]
  cases prepared with
  | error failure => exact ⟨_, _, rfl, .unprepared haction hpreparing⟩
  | ok found =>
  obtain ⟨template, assets⟩ := found
  cases action with
  | scan => exact ⟨_, _, rfl, .scanned haction hpreparing⟩
  | run =>
  obtain ⟨calls, uses, rfl⟩ := hpreparing.exists_having
  simp only [deploy]
  rw [withRemote_getTemplate]
  cases hstored : Fields.get? template w.remote.templates with
  | none =>
      have habsent : Fields.get? template (w.having calls uses).remote.templates = none := hstored
      rw [habsent]
      exact ⟨_, _, rfl, .unstored haction hpreparing hstored⟩
  | some stored =>
      have hknown : Fields.get? template (w.having calls uses).remote.templates = some stored :=
        hstored
      rw [hknown]
      exact ⟨_, _, rfl, .ran haction hpreparing hstored⟩

/-- No activity changes what activities draw on. -/
theorem Handling.sameSources {w after : World} {item : ActivityItem}
    {outcome : Except Failure ActivityOutcome} (h : Handling w item outcome after) :
    SameSources w after := by
  cases h with
  | unclear _ => exact .refl w
  | unprepared _ preparing =>
      obtain ⟨calls, uses, rfl⟩ := preparing.exists_having
      exact ⟨rfl, rfl, rfl⟩
  | scanned _ preparing =>
      obtain ⟨calls, uses, rfl⟩ := preparing.exists_having
      exact ⟨rfl, rfl, rfl⟩
  | unstored _ preparing _ =>
      obtain ⟨calls, uses, rfl⟩ := preparing.exists_having
      exact ⟨rfl, rfl, rfl⟩
  | ran _ preparing _ =>
      obtain ⟨calls, uses, rfl⟩ := preparing.exists_having
      exact ⟨rfl, rfl, rfl⟩

/-- A failure changes neither templates nor the cluster. -/
theorem Handling.of_error {w after : World} {item : ActivityItem} {failure : Failure}
    (h : Handling w item (.error failure) after) :
    after.remote.templates = w.remote.templates ∧ after.cluster = w.cluster := by
  cases h with
  | unclear _ => exact ⟨rfl, rfl⟩
  | unprepared _ preparing =>
      obtain ⟨calls, uses, rfl⟩ := preparing.exists_having
      exact ⟨rfl, rfl⟩
  | unstored _ preparing _ =>
      obtain ⟨calls, uses, rfl⟩ := preparing.exists_having
      exact ⟨rfl, rfl⟩

/-- A scan stores the projection of the experiment at the template of the scenario. -/
theorem Handling.of_scanned {w after : World} {item : ActivityItem} {name template : String}
    (h : Handling w item (.ok (.scanned name template)) after) :
    after.cluster = w.cluster ∧ ∃ assets, Yields w item.url template assets ∧
      name = assets.experiment.metadata.name ∧
      ∀ other, Fields.get? other after.remote.templates =
        if template = other then some (.ofExperiment assets.experiment)
        else Fields.get? other w.remote.templates := by
  cases h with
  | scanned _ preparing =>
      have hyields := preparing.yields
      obtain ⟨calls, uses, rfl⟩ := preparing.exists_having
      exact ⟨rfl, _, hyields, rfl, fun other => Fields.get?_put _ _ _ _⟩

/-- A run deploys the experiment with what the template of the scenario says. -/
theorem Handling.of_ran {w after : World} {item : ActivityItem} {name : String}
    {report : DeployReport} (h : Handling w item (.ok (.ran name report)) after) :
    after.remote.templates = w.remote.templates ∧ ∃ template assets stored,
      Yields w item.url template assets ∧
      name = assets.experiment.metadata.name ∧
      Fields.get? template w.remote.templates = some stored ∧
      (report, after.cluster) =
        deployAll w.cluster assets.manifests (stored.overlay assets.experiment) := by
  cases h with
  | ran _ preparing known =>
      have hyields := preparing.yields
      obtain ⟨calls, uses, rfl⟩ := preparing.exists_having
      exact ⟨rfl, _, _, _, hyields, rfl, known, rfl⟩

/-- A scan of a scenario that yields assets succeeds. -/
theorem outcome_handle_scan {w : World} {item : ActivityItem} {template : String}
    {assets : Assets} (hyields : Yields w item.url template assets)
    (hscan : item.action = .ok .scan) : (handle w item).1.outcome =
      .ok (.scanned assets.experiment.metadata.name template) := by
  obtain ⟨prepared, ready, hprepare, -⟩ := exists_preparing w item.url
  have hprepared : prepared = .ok (template, assets) := by
    rw [← prepare_of_yields hyields, hprepare]
  simp only [handle, perform, hscan, hprepare, hprepared]
  rfl

/-- A run of a scenario that yields assets and whose template is stored deploys them. -/
theorem handle_run {w : World} {item : ActivityItem} {template : String} {assets : Assets}
    {stored : ExperimentTemplate} (hyields : Yields w item.url template assets)
    (hrun : item.action = .ok .run)
    (hstored : Fields.get? template w.remote.templates = some stored) :
    (handle w item).1.outcome = .ok (.ran assets.experiment.metadata.name
        (deployAll w.cluster assets.manifests (stored.overlay assets.experiment)).1) ∧
      (handle w item).2.cluster =
        (deployAll w.cluster assets.manifests (stored.overlay assets.experiment)).2 := by
  obtain ⟨prepared, ready, hprepare, hpreparing⟩ := exists_preparing w item.url
  have hprepared : prepared = .ok (template, assets) := by
    rw [← prepare_of_yields hyields, hprepare]
  obtain ⟨calls, uses, rfl⟩ := hpreparing.exists_having
  have hknown : Fields.get? template (w.having calls uses).remote.templates = some stored := hstored
  simp only [handle, perform, hrun, hprepare, hprepared, deploy, withRemote_getTemplate, hknown]
  exact ⟨rfl, rfl⟩

/-! ### Sequences of activities -/

theorem handling (w : World) (item : ActivityItem) :
    Handling w item (handle w item).1.outcome (handle w item).2 := by
  obtain ⟨outcome, after, hperform, h⟩ := exists_handling w item
  have hhandle : handle w item =
      (⟨item.id, item.url, item.action.toOption, outcome⟩, after) := by
    rw [handle, hperform]
  rw [hhandle]
  exact h

/-- The report is about a scan that stored the template at an address. -/
def ScannedTo (template : String) (report : ActivityReport) : Prop :=
  ∃ name, report.outcome = .ok (.scanned name template)

/-- Only scans store templates. -/
theorem action_of_scannedTo {w : World} {item : ActivityItem} {template : String}
    (h : ScannedTo template (handle w item).1) : item.action = .ok .scan := by
  obtain ⟨name, houtcome⟩ := h
  have hhandling := handling w item
  rw [houtcome] at hhandling
  generalize (handle w item).2 = after at hhandling
  cases hhandling with
  | scanned asked _ => exact asked

/-- A stored template changes only by a scan that reports it. -/
theorem get?_templates_handle {w : World} {item : ActivityItem} {template : String}
    (h : ¬ ScannedTo template (handle w item).1) :
    Fields.get? template (handle w item).2.remote.templates =
      Fields.get? template w.remote.templates := by
  have hhandling := handling w item
  cases houtcome : (handle w item).1.outcome with
  | error failure =>
      rw [houtcome] at hhandling
      rw [hhandling.of_error.1]
  | ok outcome =>
      rw [houtcome] at hhandling
      cases outcome with
      | ran name report => rw [hhandling.of_ran.1]
      | scanned name other =>
          obtain ⟨-, assets, -, -, htemplates⟩ := hhandling.of_scanned
          have hother : other ≠ template := fun hsame => h ⟨name, hsame ▸ houtcome⟩
          rw [htemplates, if_neg hother]

/-! ### The loop -/

/-- Handle activities in order, when nothing stops the loop and somebody takes the reports. -/
def handleAll (w : World) (items : List ActivityItem) : List ActivityReport × World :=
  loop w [] (items.map fun item => ⟨item, false, true⟩)

/-- What was received before does not change what the loop does. -/
theorem loop_eq (w : World) (received : List ActivityReport) (turns : List Turn) :
    loop w received turns = (received ++ (loop w [] turns).1, (loop w [] turns).2) := by
  induction turns generalizing w received with
  | nil => simp [loop]
  | cons turn rest ih =>
      obtain ⟨item, stopped, listening⟩ := turn
      cases stopped with
      | true => simp [loop]
      | false =>
          cases listening with
          | true =>
              simp only [loop, send, Bool.false_eq_true, if_false, if_true]
              rw [ih _ (received ++ _), ih _ ([] ++ _), List.nil_append, List.append_assoc]
          | false =>
              simp only [loop, send, Bool.false_eq_true, if_false]
              exact ih _ received

theorem handleAll_cons (w : World) (item : ActivityItem) (rest : List ActivityItem) :
    handleAll w (item :: rest) = ((handle w item).1 :: (handleAll (handle w item).2 rest).1,
      (handleAll (handle w item).2 rest).2) := by
  have hrest := loop_eq (handle w item).2 [(handle w item).1]
    (rest.map fun item => ⟨item, false, true⟩)
  exact hrest

/-- A report that nobody takes is lost, and nothing else is: what the loop leaves is what comes of
the activities before the stop, whoever listens. -/
theorem world_loop (w : World) (received : List ActivityReport) (turns : List Turn) :
    (loop w received turns).2 =
      (handleAll w ((turns.takeWhile fun turn => !turn.stopped).map Turn.item)).2 := by
  induction turns generalizing w received with
  | nil => rfl
  | cons turn rest ih =>
      obtain ⟨item, stopped, listening⟩ := turn
      cases stopped with
      | true => simp [loop, handleAll]
      | false =>
          rw [List.takeWhile_cons_of_pos rfl, List.map_cons, handleAll_cons]
          cases listening <;> exact ih _ _

/-- Activities in two groups are handled one group behind the other. -/
theorem handleAll_append (w : World) (front back : List ActivityItem) :
    handleAll w (front ++ back) =
      ((handleAll w front).1 ++ (handleAll (handleAll w front).2 back).1,
        (handleAll (handleAll w front).2 back).2) := by
  induction front generalizing w with
  | nil => rfl
  | cons item rest ih =>
      rw [List.cons_append, handleAll_cons, handleAll_cons, ih]
      rfl

theorem sameSources_handleAll (w : World) (items : List ActivityItem) :
    SameSources w (handleAll w items).2 := by
  induction items generalizing w with
  | nil => exact .refl w
  | cons item rest ih =>
      rw [handleAll_cons]
      exact (handling w item).sameSources.trans (ih (handle w item).2)

/-- Without a scan that stores it a template stays what it was. -/
theorem get?_templates_handleAll {w : World} {items : List ActivityItem} {template : String}
    (h : ∀ report ∈ (handleAll w items).1, ¬ ScannedTo template report) :
    Fields.get? template (handleAll w items).2.remote.templates =
      Fields.get? template w.remote.templates := by
  induction items generalizing w with
  | nil => rfl
  | cons item rest ih =>
      rw [handleAll_cons] at h ⊢
      have hhead := get?_templates_handle (h _ List.mem_cons_self)
      have hrest := ih fun report hreport => h report (List.mem_cons_of_mem _ hreport)
      exact hrest.trans hhead

end Orchestration

end ClusterTuning
