import ClusterTuning.Proofs.Orchestration
import Mathlib.Algebra.Order.Ring.Nat
import Mathlib.Data.List.Forall2
import Mathlib.Data.List.TakeWhile

/-!
# ClusterTuning.Proofs.Orchestration.Calls

**Every activity has one report, and only what a scenario links to is called.**

An activity makes its calls in one order and stops at the first that leads nowhere, so what it has
called is the beginning of a plan (`callsFor`). The endings of an activity say how far it came, and
each of them leaves a `Footprint`: some calls and at most one use of the generator. Footprints speak
of scenarios, applications and the generator only, which no activity changes, so that those of a
whole run can be told from the world in which it starts.

## Main statements

* `link?_eq_some_iff`: a scenario links to the first address of a relation that is not empty.
* `footprint_handle`, `footprints_handleAll`: what one activity and what a queue of them leaves.
* `activities_reported`: the reports and the calls of a run, with and without a listener, and of one
  that is told to stop before it starts.
-/

namespace ClusterTuning

/-- The tag that asks for an action. -/
def Action.tag : Action → Tag
  | .scan => .scan
  | .run => .run

theorem ActivityItem.action_eq_ok_iff {item : ActivityItem} {action : Action} :
    item.action = .ok action ↔ item.tags = [action.tag] := by
  unfold ActivityItem.action
  split <;> cases action <;> simp_all [Action.tag]

/-- An activity is unclear if its tags are not exactly the one tag of an action. -/
theorem ActivityItem.action_eq_error_iff {item : ActivityItem} :
    (∃ failure, item.action = .error failure) ↔ ∀ action : Action, item.tags ≠ [action.tag] := by
  constructor
  · rintro ⟨failure, h⟩ action htags
    rw [ActivityItem.action_eq_ok_iff.mpr htags] at h
    cases h
  · intro h
    cases haction : item.action with
    | error failure => exact ⟨failure, rfl⟩
    | ok action => exact absurd (ActivityItem.action_eq_ok_iff.mp haction) (h action)

/-- A link of the relation leads to the address, which is not empty, and those of the relation that
stand before it lead nowhere. -/
def Scenario.LinksTo (s : Scenario) (rel href : String) : Prop :=
  ∃ before after, s.links = before ++ ⟨rel, href⟩ :: after ∧ href ≠ "" ∧
    ∀ l ∈ before, l.rel = rel → l.href = ""

/-- The link of a relation is the first one that has it. -/
theorem Scenario.link?_eq_some_iff {s : Scenario} {rel href : String} :
    s.link? rel = some href ↔ s.LinksTo rel href := by
  unfold Scenario.link? Scenario.LinksTo
  rw [Option.map_eq_some_iff]
  constructor
  · rintro ⟨⟨rel', href'⟩, hfind, rfl⟩
    obtain ⟨hfits, before, after, hlinks, hbefore⟩ := List.find?_eq_some_iff_append.mp hfind
    obtain ⟨rfl, hhref⟩ : rel' = rel ∧ href' ≠ "" := by simpa using hfits
    refine ⟨before, after, hlinks, hhref, fun l hl hrel => ?_⟩
    simpa [hrel] using hbefore l hl
  · rintro ⟨before, after, hlinks, hhref, hbefore⟩
    refine ⟨⟨rel, href⟩, List.find?_eq_some_iff_append.mpr ⟨?_, before, after, hlinks, ?_⟩, rfl⟩
    · simpa using hhref
    · intro l hl
      simpa [imp_iff_not_or] using hbefore l hl

namespace Orchestration

/-! ### One activity -/

/-- The scenario at an address links to an application and to a template. -/
def Leads (w : World) (url application template : String) : Prop :=
  ∃ scenario, Fields.get? url w.remote.scenarios = some scenario ∧
    scenario.LinksTo Link.up application ∧ scenario.LinksTo Link.template template

/-- The calls of an activity that nothing stops. -/
def callsFor (action : Action) (url application template : String) : List RemoteCall :=
  [.scenario url, .application application,
    match action with
    | .scan => .storeTemplate template
    | .run => .template template]

/-- The calls that an activity has made, and how often it has used the generator. -/
structure Footprint (w : World) (item : ActivityItem) (calls : List RemoteCall) (uses : Nat) :
    Prop where
  /-- Nothing is called exactly when the activity does not carry one known tag. -/
  nothing : calls = [] ↔ ∀ action : Action, item.tags ≠ [action.tag]
  /-- The calls follow the plan, and without both links they end at the scenario. -/
  planned : calls <+: [.scenario item.url] ∨ ∃ action application template,
    item.tags = [action.tag] ∧ Leads w item.url application template ∧
      calls <+: callsFor action item.url application template
  /-- The generator is used once at most. -/
  once : uses ≤ 1
  /-- It is used after the application was found. -/
  fetched : uses = 1 → ∃ application template app, Leads w item.url application template ∧
    Fields.get? application w.remote.applications = some app ∧
    [.scenario item.url, .application application] <+: calls
  /-- The template is called for after the generator was used. -/
  generated : 2 < calls.length → uses = 1
  /-- If the generator fails, nothing is called after it. -/
  stopped : uses = 1 → (∀ app, ∃ failure, w.generator app = .error failure) → calls.length = 2

section Footprint

variable {w : World} {item : ActivityItem} {calls : List RemoteCall} {uses : Nat}

/-- Without both links no application is asked for. -/
theorem Footprint.exists_leads (h : Footprint w item calls uses) {application : String}
    (hcall : .application application ∈ calls) :
    ∃ template, Leads w item.url application template := by
  rcases h.planned with halone | ⟨action, application', template, -, hleads, hcalls⟩
  · have hmem := halone.subset hcall
    simp at hmem
  · have hmem := hcalls.subset hcall
    have hsame : application = application' := by
      cases action <;> simpa [callsFor] using hmem
    exact ⟨template, hsame ▸ hleads⟩

theorem leads_iff_of_sameSources {w' : World} (h : SameSources w w')
    {url application template : String} :
    Leads w' url application template ↔ Leads w url application template := by
  rw [Leads, h.scenarios, Leads]

/-- Which calls are made depends on the scenarios, the applications and the generator only. -/
theorem Footprint.of_sameSources {w' : World} (h : SameSources w w')
    (hprint : Footprint w' item calls uses) : Footprint w item calls uses where
  nothing := hprint.nothing
  planned := by simpa only [leads_iff_of_sameSources h] using hprint.planned
  once := hprint.once
  fetched := by
    simpa only [leads_iff_of_sameSources h, h.applications] using hprint.fetched
  generated := hprint.generated
  stopped := by simpa only [h.generator] using hprint.stopped

theorem leads_of_requireLinks {scenario : Scenario} {links : Links} {url : String}
    (hfound : Fields.get? url w.remote.scenarios = some scenario)
    (hlinked : requireLinks scenario = .ok links) :
    Leads w url links.application links.template := by
  obtain ⟨hup, htemplate⟩ := requireLinks_eq_ok_iff.mp hlinked
  exact ⟨scenario, hfound, Scenario.link?_eq_some_iff.mp hup,
    Scenario.link?_eq_some_iff.mp htemplate⟩

theorem footprint_nil (h : ∃ failure, item.action = .error failure) : Footprint w item [] 0 where
  nothing := iff_of_true rfl (ActivityItem.action_eq_error_iff.mp h)
  planned := .inl List.nil_prefix
  once := Nat.zero_le 1
  fetched := nofun
  generated := nofun
  stopped := nofun

variable {action : Action} {application template : String}

theorem not_nothing (hasked : item.action = .ok action) :
    ¬ ∀ action : Action, item.tags ≠ [action.tag] :=
  fun h => h action (ActivityItem.action_eq_ok_iff.mp hasked)

theorem footprint_scenario (hasked : item.action = .ok action) :
    Footprint w item [.scenario item.url] 0 where
  nothing := iff_of_false (List.cons_ne_nil _ _) (not_nothing hasked)
  planned := .inl List.prefix_rfl
  once := Nat.zero_le 1
  fetched := nofun
  generated := nofun
  stopped := nofun

/-- The calls of an activity that came as far as the application. -/
theorem footprint_application (hasked : item.action = .ok action)
    (hleads : Leads w item.url application template) (honce : uses ≤ 1)
    (hfetched : uses = 1 → ∃ app, Fields.get? application w.remote.applications = some app) :
    Footprint w item [.scenario item.url, .application application] uses where
  nothing := iff_of_false (List.cons_ne_nil _ _) (not_nothing hasked)
  planned := .inr ⟨action, application, template, ActivityItem.action_eq_ok_iff.mp hasked, hleads,
    List.prefix_append _ [_]⟩
  once := honce
  fetched huse := by
    obtain ⟨app, happ⟩ := hfetched huse
    exact ⟨application, template, app, hleads, happ, List.prefix_rfl⟩
  generated := nofun
  stopped _ _ := rfl

/-- The calls of an activity that was prepared: all three, and one use of the generator. -/
theorem footprint_callsFor (hasked : item.action = .ok action)
    (hleads : Leads w item.url application template) {app : StoredApplication}
    (hknown : Fields.get? application w.remote.applications = some app)
    {descriptor : Application} {data : Bytes} (hgenerated : w.generator descriptor = .ok data) :
    Footprint w item (callsFor action item.url application template) 1 where
  nothing := iff_of_false (List.cons_ne_nil _ _) (not_nothing hasked)
  planned := .inr ⟨action, application, template, ActivityItem.action_eq_ok_iff.mp hasked, hleads,
    List.prefix_rfl⟩
  once := le_rfl
  fetched _ := ⟨application, template, app, hleads, hknown, List.prefix_append _ [_]⟩
  generated _ := rfl
  stopped _ hfails := by
    obtain ⟨failure, hfailure⟩ := hfails descriptor
    rw [hfailure] at hgenerated
    cases hgenerated

/-- An activity that gets no assets stops at one of its first two calls. -/
theorem footprint_of_unprepared {after : World} {failure : Failure}
    (hasked : item.action = .ok action) (h : Preparing w item.url (.error failure) after) :
    ∃ calls uses, after = w.having calls uses ∧ Footprint w item calls uses := by
  cases h with
  | noScenario absent => exact ⟨_, _, rfl, footprint_scenario hasked⟩
  | unlinked found unlinked => exact ⟨_, _, rfl, footprint_scenario hasked⟩
  | noApplication found linked absent =>
      exact ⟨_, _, rfl, footprint_application hasked (leads_of_requireLinks found linked)
        (Nat.zero_le 1) nofun⟩
  | notGenerated found linked known failed =>
      exact ⟨_, _, rfl, footprint_application hasked (leads_of_requireLinks found linked)
        le_rfl fun _ => ⟨_, known⟩⟩
  | unreadable found linked known generated unreadable =>
      exact ⟨_, _, rfl, footprint_application hasked (leads_of_requireLinks found linked)
        le_rfl fun _ => ⟨_, known⟩⟩

/-- An activity that gets its assets has made its first two calls, and may make the third. -/
theorem footprint_of_prepared {ready : World} {assets : Assets}
    (hasked : item.action = .ok action)
    (h : Preparing w item.url (.ok (template, assets)) ready) :
    ∃ application,
      ready = w.having [.scenario item.url, .application application] 1 ∧
      Footprint w item (callsFor action item.url application template) 1 := by
  cases h with
  | ready found linked known generated read =>
      exact ⟨_, rfl, footprint_callsFor hasked (leads_of_requireLinks found linked) known generated⟩

/-- What an activity leaves behind. -/
theorem footprint_handle (w : World) (item : ActivityItem) :
    ∃ calls uses, (handle w item).2.remote.calls = w.remote.calls ++ calls ∧
      (handle w item).2.generated = w.generated + uses ∧ Footprint w item calls uses := by
  have hhandling := handling w item
  generalize (handle w item).1.outcome = outcome at hhandling
  generalize (handle w item).2 = after at hhandling ⊢
  cases hhandling with
  | unclear unclear =>
      exact ⟨[], 0, (List.append_nil _).symm, rfl, footprint_nil ⟨_, unclear⟩⟩
  | unprepared asked preparing =>
      obtain ⟨calls, uses, rfl, hprint⟩ := footprint_of_unprepared asked preparing
      exact ⟨calls, uses, rfl, rfl, hprint⟩
  | scanned asked preparing =>
      obtain ⟨application, rfl, hprint⟩ := footprint_of_prepared asked preparing
      exact ⟨_, _, List.append_assoc _ _ _, rfl, hprint⟩
  | unstored asked preparing _ =>
      obtain ⟨application, rfl, hprint⟩ := footprint_of_prepared asked preparing
      exact ⟨_, _, List.append_assoc _ _ _, rfl, hprint⟩
  | ran asked preparing _ =>
      obtain ⟨application, rfl, hprint⟩ := footprint_of_prepared asked preparing
      exact ⟨_, _, List.append_assoc _ _ _, rfl, hprint⟩

end Footprint

/-! ### A queue of activities -/

/-- One report for each activity, about it and in its turn. -/
theorem map_reports_handleAll (w : World) (items : List ActivityItem) :
    (handleAll w items).1.map (fun report => (report.id, report.url)) =
      items.map fun item => (item.id, item.url) := by
  induction items generalizing w with
  | nil => rfl
  | cons item rest ih =>
      rw [handleAll_cons]
      exact congrArg ((item.id, item.url) :: ·) (ih (handle w item).2)

theorem length_reports_handleAll (w : World) (items : List ActivityItem) :
    (handleAll w items).1.length = items.length := by
  simpa using congrArg List.length (map_reports_handleAll w items)

theorem getElem?_reports_handleAll (w : World) (before : List ActivityItem) (item : ActivityItem)
    (after : List ActivityItem) : (handleAll w (before ++ item :: after)).1[before.length]? =
      some (handle (handleAll w before).2 item).1 := by
  rw [handleAll_append, handleAll_cons, ← length_reports_handleAll w before,
    List.getElem?_append_right le_rfl, Nat.sub_self, List.getElem?_cons_zero]

/-- The calls of a queue are those of its activities, one after the other. -/
theorem footprints_handleAll (w : World) (items : List ActivityItem) :
    ∃ prints : List (List RemoteCall × Nat),
      List.Forall₂ (fun item print => Footprint w item print.1 print.2) items prints ∧
      (handleAll w items).2.remote.calls = w.remote.calls ++ prints.flatMap Prod.fst ∧
      (handleAll w items).2.generated = w.generated + (prints.map Prod.snd).sum := by
  induction items generalizing w with
  | nil => exact ⟨[], .nil, (List.append_nil _).symm, rfl⟩
  | cons item rest ih =>
      obtain ⟨calls, uses, hcalls, huses, hprint⟩ := footprint_handle w item
      obtain ⟨prints, hprints, hrestCalls, hrestUses⟩ := ih (handle w item).2
      refine ⟨(calls, uses) :: prints, .cons hprint (hprints.imp fun _ _ h =>
        h.of_sameSources (handling w item).sameSources), ?_, ?_⟩
      · rw [handleAll_cons, hrestCalls, hcalls, List.append_assoc, List.flatMap_cons]
      · rw [handleAll_cons, hrestUses, huses, Nat.add_assoc, List.map_cons, List.sum_cons]

/-! ### Runs of the loop -/

/-- Whether anybody listens or not, a run that nothing stops does what its activities ask for. -/
theorem world_run (w : World) (items : List ActivityItem) (listening : Bool) :
    (run w items false listening).2 =
      (handleAll { w with remote := w.remote.log .subscribe } items).2 := by
  have hall : (items.map fun item => (⟨item, false, listening⟩ : Turn)).takeWhile
      (fun turn => !turn.stopped) = items.map fun item => ⟨item, false, listening⟩ := by
    rw [List.takeWhile_eq_self_iff]
    simp
  have hitems : (items.map fun item => (⟨item, false, listening⟩ : Turn)).map Turn.item =
      items := by
    rw [List.map_map]
    exact List.map_id items
  rw [run, world_loop, hall, hitems]

/-- A run that is told to stop before it starts ends at its first turn. -/
theorem run_stopped (w : World) (items : List ActivityItem) (listening : Bool) :
    run w items true listening = ([], { w with remote := w.remote.log .subscribe }) := by
  cases items <;> rfl

/-- An activity asks for the scenario at its address, for the application that the scenario links
to, and then for the template, which a scan stores and a run gets. It may stop after any of these,
and calls nothing exactly when it does not carry one known tag. No application is asked for unless
the scenario has both links, and the generator is used once at most, after the application was
found and before the template is asked for.

A run makes one report for each activity of the queue, in order and under its identifier and
address, about what became of it in the world that the activities before have left. Its calls are
those of the activities, one after the other. If nobody listens to the reports, all else is the
same, and a run that is told to stop before it starts does nothing but subscribe. -/
theorem activities_reported :
    (∀ (w : World) (item : ActivityItem), ∃ calls uses,
      (handle w item).2.remote.calls = w.remote.calls ++ calls ∧
      (handle w item).2.generated = w.generated + uses ∧
      Footprint w item calls uses ∧
      ∀ application, .application application ∈ calls →
        ∃ template, Leads w item.url application template) ∧
    ∀ (w : World) (items : List ActivityItem),
      let start := { w with remote := w.remote.log .subscribe }
      (run w items false true).1.map (fun report => (report.id, report.url)) =
          items.map (fun item => (item.id, item.url)) ∧
        (∀ before item after, items = before ++ item :: after →
          (run w items false true).1[before.length]? =
            some (handle (handleAll start before).2 item).1) ∧
        (∃ prints : List (List RemoteCall × Nat),
          List.Forall₂ (fun item print => Footprint w item print.1 print.2) items prints ∧
          (run w items false true).2.remote.calls =
            w.remote.calls ++ .subscribe :: prints.flatMap Prod.fst ∧
          (run w items false true).2.generated = w.generated + (prints.map Prod.snd).sum) ∧
        (run w items false false).2 = (run w items false true).2 ∧
        ∀ listening, run w items true listening = ([], start) := by
  refine ⟨fun w item => ?_, fun w items => ?_⟩
  · obtain ⟨calls, uses, hcalls, huses, hprint⟩ := footprint_handle w item
    exact ⟨calls, uses, hcalls, huses, hprint, fun _ => hprint.exists_leads⟩
  · intro start
    have hsources : SameSources w start := ⟨rfl, rfl, rfl⟩
    obtain ⟨prints, hprints, hcalls, huses⟩ := footprints_handleAll start items
    refine ⟨map_reports_handleAll start items, ?_, ⟨prints, ?_, ?_, huses⟩,
      (world_run w items false).trans (world_run w items true).symm, run_stopped w items⟩
    · rintro before item after rfl
      exact getElem?_reports_handleAll start before item after
    · exact hprints.imp fun _ _ h => h.of_sameSources hsources
    · exact hcalls.trans (List.append_assoc _ [RemoteCall.subscribe] _)

/-- An activity with two tags is reported before a scan whose scenario is not known, and the scan
after it. -/
theorem activities_reported_shop :
    let w : World := { generator := fun _ => .error (.render "generator" "none") }
    let unclear : ActivityItem := { id := "1", url := "s", tags := [.scan, .run] }
    let scan : ActivityItem := { url := "t", tags := [.scan] }
    (run w [unclear, scan] false true).1[1]? = some (handle (handleAll
      { w with remote := w.remote.log .subscribe } [unclear]).2 scan).1 := by
  intro w unclear scan
  exact (activities_reported.2 w [unclear, scan]).2.1 [unclear] scan [] rfl

end Orchestration

end ClusterTuning
