import SpotSettlement.Code
import SpotSettlement.Time.Instant

namespace SpotSettlement

/-! # Replay requests

A replay runs reconciliation once more for a connector.  Operators ask for it, and so does recovery
from a broken stream.  While a request is open, a second one like it within a short window adds
nothing.
-/

inductive ReplayTrigger where
  | manual
  | recovery
  deriving DecidableEq, Repr, Inhabited

inductive ReplayStatus where
  | pending
  | running
  | succeeded
  | failed
  deriving DecidableEq, Repr, Inhabited

instance : Coded ReplayTrigger where
  noun := "replay_trigger"
  values := [.manual, .recovery]
  code
    | .manual => "MANUAL"
    | .recovery => "RECOVERY"

instance : Coded ReplayStatus where
  noun := "replay_status"
  values := [.pending, .running, .succeeded, .failed]
  code
    | .pending => "PENDING"
    | .running => "RUNNING"
    | .succeeded => "SUCCEEDED"
    | .failed => "FAILED"

/-- Whether the replay is still to be finished. -/
def ReplayStatus.isOpen : ReplayStatus → Bool
  | .pending | .running => true
  | _ => false

/-- A request to run reconciliation for a connector. -/
structure ReplayRequest where
  id : String
  connector : String
  trigger : ReplayTrigger
  reason : Option String
  status : ReplayStatus
  requestedBy : Option String
  requestedAt : Instant
  startedAt : Option Instant
  completedAt : Option Instant
  error : Option String
  deriving DecidableEq, Repr, Inhabited

def ReplayRequest.pending (id connector : String) (trigger : ReplayTrigger)
    (reason requestedBy : Option String) (now : Instant) : ReplayRequest :=
  { id, connector, trigger, reason, status := .pending, requestedBy, requestedAt := now
    startedAt := none, completedAt := none, error := none }

/-- What became of a new request: it waits, or an open one like it stands in for it. -/
inductive ReplayEnqueued where
  | enqueued (request : ReplayRequest)
  | deduplicated (request : ReplayRequest)
  deriving DecidableEq, Repr, Inhabited

/-- The request that now stands for the wish. -/
def ReplayEnqueued.request : ReplayEnqueued → ReplayRequest
  | .enqueued request | .deduplicated request => request

def ReplayEnqueued.isDeduplicated : ReplayEnqueued → Bool
  | .enqueued _ => false
  | .deduplicated _ => true

end SpotSettlement
