import ClusterTuning.Json.Writer
import ClusterTuning.Report
import ClusterTuning.Shutdown

/-!
# ClusterTuning.Controller

**What the controller tells about its work.**

The controller counts the reports that it gets, keeps the last one, and sends each to all who
listen. Those who listen take reports from a shared channel that keeps the most recent ones, so that
one who takes too long misses older reports and goes on with those that are left. After a request to
stop, nothing more is sent.
-/

namespace ClusterTuning

/-- The counts of reports, and the last one. -/
structure ControllerStatus where
  /-- How many reports there were. -/
  received : Nat := 0
  /-- About how many activities nothing was wrong. -/
  succeeded : Nat := 0
  /-- About how many activities something was. -/
  failed : Nat := 0
  /-- The last report. -/
  lastReport : Option ReportSummary := none
deriving DecidableEq, Repr, Inhabited

namespace ControllerStatus

/-- Count a report. -/
def record (s : ControllerStatus) (r : ReportSummary) : ControllerStatus where
  received := s.received + 1
  succeeded := if r.status = "ok" then s.succeeded + 1 else s.succeeded
  failed := if r.status = "ok" then s.failed else s.failed + 1
  lastReport := some r

/-- The status as a value. -/
def encode (s : ControllerStatus) : Value :=
  .object (Encode.field "received" (.ofNat s.received) ++
    Encode.field "succeeded" (.ofNat s.succeeded) ++ Encode.field "failed" (.ofNat s.failed) ++
    Encode.optional "last_report" ReportSummary.encode s.lastReport)

end ControllerStatus

/-! ### Listening -/

/-- Somebody who listens. -/
structure Listener where
  /-- Has the greeting been sent? -/
  greeted : Bool := false
  /-- The number of reports that are not for this listener any more. -/
  position : Nat
  /-- Is it over? -/
  ended : Bool := false
deriving DecidableEq, Repr, Inhabited

/-- The greeting that comes before all reports. -/
def greetingEvent : String :=
  "event: connected\ndata: \x7b\x7d\n\n"

/-- A report as an event. -/
def reportEvent (r : ReportSummary) : String :=
  "event: report\nid: " ++ r.id ++ "\ndata: " ++ Json.write r.encode ++ "\n\n"

/-- The controller. -/
structure Controller where
  /-- How many reports the channel keeps. -/
  kept : Nat
  /-- The counts. -/
  status : ControllerStatus := {}
  /-- All reports, in order. -/
  sent : List ReportSummary := []
  /-- All who listen. -/
  listeners : List Listener := []
  /-- The request to stop. -/
  shutdown : Shutdown := {}
deriving Repr, Inhabited

namespace Controller

/-- The least power of two that is not below `n`. `fuel` bounds the doublings. -/
def powerOfTwoFrom (n : Nat) : Nat → Nat → Nat
  | 0, power => power
  | fuel + 1, power => if power < n then powerOfTwoFrom n fuel (power * 2) else power

/-- The number of reports that a channel of a capacity keeps. -/
def keptFor (capacity : Nat) : Nat :=
  powerOfTwoFrom capacity capacity 1

/-- A controller whose channel has a capacity. -/
def start (capacity : Nat) : Controller :=
  { kept := keptFor capacity }

/-- Count a report and send it on. -/
def record (r : ReportSummary) (c : Controller) : Controller :=
  { c with status := c.status.record r, sent := c.sent ++ [r] }

/-- Take in reports in order. -/
def consume (reports : List ActivityReport) (c : Controller) : Controller :=
  reports.foldl (fun c r => c.record (.ofReport r)) c

/-- Let one more listen, to the reports from now on. -/
def subscribe (c : Controller) : Controller :=
  { c with listeners := c.listeners ++ [{ position := c.sent.length }] }

/-- Make the request to stop. -/
def stop (c : Controller) : Controller :=
  { c with shutdown := c.shutdown.trigger }

/-- The reports that the channel still has for a position. -/
def pending (c : Controller) (position : Nat) : List ReportSummary :=
  c.sent.drop (max position (c.sent.length - c.kept))

/-- What a listener gets now, and the listener after it. -/
def deliver (c : Controller) (l : Listener) : String × Listener :=
  if l.ended then ("", l)
  else
    let greeting := if l.greeted then "" else greetingEvent
    if c.shutdown.requested then (greeting, { l with greeted := true, ended := true })
    else
      (greeting ++ String.join ((c.pending l.position).map reportEvent),
        ⟨true, c.sent.length, false⟩)

/-- Let the listener of a number get what there is. -/
def read (i : Nat) (c : Controller) : Option (String × Listener) × Controller :=
  match c.listeners[i]? with
  | none => (none, c)
  | some l =>
    let (events, l) := c.deliver l
    (some (events, l), { c with listeners := c.listeners.set i l })

/-- What is found at a path. -/
inductive Page where
  /-- A line of text. -/
  | text (s : String)
  /-- The status. -/
  | status (s : ControllerStatus)
  /-- Nothing. -/
  | missing
deriving Repr

/-- The page at a path. What follows a question mark or a number sign does not count. -/
def page (path : String) (c : Controller) : Page :=
  let place := String.ofList (path.toList.takeWhile fun ch => ch != '?' && ch != '#')
  if place = "/api/health" then .text "ok"
  else if place = "/api/status" then .status c.status
  else .missing

end Controller

end ClusterTuning
