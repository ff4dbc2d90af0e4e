import SpotSettlement.Broker.Basic
import SpotSettlement.Exchange.Order
import SpotSettlement.Outbox.Relay
import SpotSettlement.Retry.Backoff
import SpotSettlement.Settlement.Ingestion
import SpotSettlement.Store.Connectors

namespace SpotSettlement

/-! # The engine

The engine is what runs: the store, the broker, the talk with the exchange and the health of the
connector, with the time that was spent waiting.  Each of its activities may be refused by a unit of
work or by the exchange and go on; only a number that does not fit, or a stop while it waits, ends
an activity, and what it had done until then stays done.
-/

structure Setup where
  terms : Terms
  /-- The name of the exchange, and of its connector. -/
  exchange : String
  retry : RetryPolicy
  /-- How long after its last success a connector counts as down. -/
  downThreshold : Duration
  /-- How far back trades are fetched. -/
  lookback : Duration
  /-- The time within which an open replay request stands in for a new one. -/
  dedupeWindow : Duration
  deriving Inhabited

inductive ConnectorNote where
  /-- The health of the connector. -/
  | health (health : ConnectorHealth)
  /-- A replay request, and whether an open one stood in for it. -/
  | replay (deduplicated : Bool) (trigger : ReplayTrigger) (reason requestedBy : Option String)
  deriving DecidableEq, Repr

/-- A line of the audit log that users see. -/
structure AuditLine where
  action : String
  account : String
  orderId : Option String
  details : Json
  moment : Instant
  deriving Inhabited

structure Engine where
  store : Store := {}
  broker : Broker := {}
  talk : ExchangeTalk := {}
  health : ConnectorHealth
  notes : List ConnectorNote := []
  audit : List AuditLine := []
  /-- The time spent waiting. -/
  waited : Duration := ⟨0⟩
  /-- The time spent waiting at which the running activity is told to stop. -/
  stopAt : Option Duration := none
  deriving Inhabited

/-- What ends an activity before it is done. -/
inductive Interruption where
  /-- A number does not fit. -/
  | overflow (operation : Decimal.Overflow)
  /-- The activity was told to stop while it waited. -/
  | stopped
  deriving DecidableEq

abbrev Activity := ExceptT Interruption (StateM Engine)

namespace Engine

/-- Does a unit of work on the store. -/
def perform {α : Type} (work : Work α) : Activity (Except SettlementError α) := do
  let engine ← get
  let (result, store) := engine.store.perform work
  set { engine with store }
  match result with
  | .ok value => return .ok value
  | .error (.refused cause) => return .error cause
  | .error (.overflow operation) => throw (.overflow operation)

def ask {α : Type} (call : ExchangeCall) (fits : ExchangeAnswer → Option α) :
    Activity (Except ExchangeError α) := do
  let engine ← get
  let (answer, talk) := engine.talk.ask call fits
  set { engine with talk }
  return answer

/-- Waits, or stops where the activity is told to. -/
def wait (delay : Duration) : Activity Unit := do
  let engine ← get
  let passed := engine.waited + delay
  match engine.stopAt with
  | none => set { engine with waited := passed }
  | some stop =>
    if stop ≤ passed then
      set { engine with waited := stop }
      throw .stopped
    else set { engine with waited := passed }

/-- Runs an activity that is told to stop after so long a time. -/
def stoppingAfter (span : Duration) (activity : Activity Unit) : Activity Unit :=
  ExceptT.mk do
    modify fun engine => { engine with stopAt := some (engine.waited + span) }
    let result ← activity.run
    modify fun engine => { engine with stopAt := none }
    match result with
    | .error .stopped => return .ok ()
    | other => return other

def note (line : ConnectorNote) : Activity Unit :=
  modify fun engine => { engine with notes := engine.notes ++ [line] }

/-- Changes the health of the connector and writes it down.  The change stands even if it cannot be
written. -/
def updateHealth (change : ConnectorHealth → ConnectorHealth) : Activity Unit := do
  let health := change (← get).health
  modify fun engine => { engine with health }
  note (.health health)
  let _ ← perform (Store.saveHealth health)

def enqueueReplay (connector : String) (trigger : ReplayTrigger)
    (reason requestedBy : Option String) (requestedAt : Instant) (window : Duration) :
    Activity (Except SettlementError ReplayEnqueued) := do
  let result ← perform do
    let id ← Store.mint
    Store.enqueueReplay (.pending id connector trigger reason requestedBy requestedAt) window
  match result with
  | .ok enqueued =>
    note (.replay enqueued.isDeduplicated trigger reason requestedBy)
  | .error _ => pure ()
  return result

/-- Replaces the health of the connector by a fresh one, or by the one that was written down. -/
def restoreHealth (connector : String) (now : Instant) : Activity Unit := do
  let stored ← perform (Store.findHealth connector)
  let health := match stored with
    | .ok (some health) => health
    | _ => .initial connector now
  modify fun engine => { engine with health }

end Engine

end SpotSettlement
