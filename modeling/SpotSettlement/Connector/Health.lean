import SpotSettlement.Code
import SpotSettlement.Execution.Basic

namespace SpotSettlement

/-! # The health of a connector

A connector polls its exchange and listens to its stream.  Its status comes from the polls alone: it
is up while they succeed, degraded while the latest failed but a recent one succeeded, and down when
none succeeded within a threshold.
-/

inductive ConnectorStatus where
  | up
  | degraded
  | down
  deriving DecidableEq, Repr, Inhabited

inductive WebsocketState where
  | up
  | degraded
  | connecting
  | down
  deriving DecidableEq, Repr, Inhabited

instance : Coded ConnectorStatus where
  noun := "connector_status"
  values := [.up, .degraded, .down]
  code
    | .up => "UP"
    | .degraded => "DEGRADED"
    | .down => "DOWN"

instance : Coded WebsocketState where
  noun := "websocket_state"
  values := [.up, .degraded, .connecting, .down]
  code
    | .up => "UP"
    | .degraded => "DEGRADED"
    | .connecting => "CONNECTING"
    | .down => "DOWN"

/-- What has come of the events of a stream. -/
structure StreamCounters where
  inserted : Nat := 0
  duplicate : Nat := 0
  unmapped : Nat := 0
  errors : Nat := 0
  deriving DecidableEq, Repr, Inhabited

structure ConnectorHealth where
  connector : String
  status : ConnectorStatus := .down
  lastSuccessAt : Option Instant := none
  lastPollAt : Option Instant := none
  lastErrorAt : Option Instant := none
  lastErrorCode : Option String := none
  lastErrorMessage : Option String := none
  openOrders : Nat := 0
  trades : Nat := 0
  websocket : WebsocketState := .down
  reconnectAttempts : Nat := 0
  stream : StreamCounters := {}
  updatedAt : Instant
  deriving DecidableEq, Repr, Inhabited

namespace ConnectorHealth

/-- The health before anything has succeeded. -/
def initial (connector : String) (now : Instant) : ConnectorHealth :=
  { connector, updatedAt := now }

/-- The status that the moments of the last success and the last error give. -/
def deriveStatus (health : ConnectorHealth) (threshold : Duration) (now : Instant) :
    ConnectorStatus :=
  match health.lastSuccessAt with
  | none => .down
  | some success =>
    if success < now.before threshold then .down
    else
      match health.lastErrorAt with
      | some error => if success < error then .degraded else .up
      | none => .up

/-- The health with its status derived anew. -/
def refresh (health : ConnectorHealth) (threshold : Duration) (now : Instant) : ConnectorHealth :=
  { health with status := health.deriveStatus threshold now, updatedAt := now }

/-- Records an error; the moments of the polls stay. -/
def recordError (health : ConnectorHealth) (code message : String) (now : Instant) :
    ConnectorHealth :=
  { health with
    lastErrorAt := some now
    lastErrorCode := some code
    lastErrorMessage := some message
    updatedAt := now }

def recordPollSuccess (health : ConnectorHealth) (openOrders trades : Nat) (threshold : Duration)
    (now : Instant) : ConnectorHealth :=
  refresh { health with lastPollAt := some now, lastSuccessAt := some now, openOrders, trades }
    threshold now

/-- Records a poll that reached the exchange but could not apply all it fetched. -/
def recordPollIncomplete (health : ConnectorHealth) (openOrders trades : Nat)
    (code message : String) (threshold : Duration) (now : Instant) : ConnectorHealth :=
  (recordError { health with lastPollAt := some now, openOrders, trades } code message now).refresh
    threshold now

def recordPollFailure (health : ConnectorHealth) (code message : String) (threshold : Duration)
    (now : Instant) : ConnectorHealth :=
  (recordError { health with lastPollAt := some now } code message now).refresh threshold now

def recordWebsocket (health : ConnectorHealth) (state : WebsocketState) (attempts : Nat)
    (now : Instant) : ConnectorHealth :=
  { health with websocket := state, reconnectAttempts := attempts, updatedAt := now }

/-- Counts what came of a fill from the stream. -/
def recordStreamOutcome (health : ConnectorHealth) (outcome : IngestOutcome) (now : Instant) :
    ConnectorHealth :=
  let counters := health.stream
  let counters := match outcome with
    | .inserted .. => { counters with inserted := counters.inserted + 1 }
    | .duplicate => { counters with duplicate := counters.duplicate + 1 }
    | .unmapped => { counters with unmapped := counters.unmapped + 1 }
  { health with stream := counters, updatedAt := now }

/-- Counts an event of the stream that could not be applied. -/
def recordStreamError (health : ConnectorHealth) (code message : String) (now : Instant) :
    ConnectorHealth :=
  recordError { health with stream := { health.stream with errors := health.stream.errors + 1 } }
    code message now

end ConnectorHealth

end SpotSettlement
