/-!
# ClusterTuning.Shutdown

**The request to stop.**

A trigger makes the request, once and for all. Whoever waits for it goes on as soon as it is made; a
trigger that is given up without being used leaves them waiting.
-/

namespace ClusterTuning

/-- The request to stop, as it stands. -/
structure Shutdown where
  /-- Has it been made? -/
  requested : Bool := false
  /-- Is the trigger still there? -/
  triggerHeld : Bool := true
deriving DecidableEq, Repr, Inhabited

namespace Shutdown

/-- Use the trigger, if it is still there. -/
def trigger (s : Shutdown) : Shutdown :=
  { s with requested := s.requested || s.triggerHeld }

/-- Give the trigger up. -/
def giveUp (s : Shutdown) : Shutdown :=
  { s with triggerHeld := false }

end Shutdown

end ClusterTuning
