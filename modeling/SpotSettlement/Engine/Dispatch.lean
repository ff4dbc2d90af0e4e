import SpotSettlement.Engine.Basic

namespace SpotSettlement

/-! # Dispatching the outbox

A dispatcher returns leases that have run out, claims a batch, publishes its rows one after the
other and reports what became of each.
-/

structure DispatcherSetup where
  lease : Duration := .ofSeconds 120
  batch : Nat := 100
  schedule : RetrySchedule := {}
  deriving DecidableEq, Repr, Inhabited

structure DispatchReport where
  reclaimed : Nat := 0
  claimed : Nat := 0
  published : Nat := 0
  failed : Nat := 0
  dead : Nat := 0
  deriving DecidableEq, Repr, Inhabited

namespace DispatcherSetup

/-- Reports to the store what came of publishing a row that was claimed. -/
def settle (dispatcher : DispatcherSetup) (row : OutboxRow) (result : Except BrokerError Unit)
    (report : DispatchReport) (now : Instant) : Work DispatchReport :=
  match result with
  | .ok () => do
    Store.markPublished row.id now
    return { report with published := report.published + 1 }
  | .error error => do
    match row.nextFailure dispatcher.schedule now with
    | .retry attempts nextAttemptAt =>
      Store.markFailed row.id attempts nextAttemptAt error.message
      return { report with failed := report.failed + 1 }
    | .dead attempts =>
      Store.markDead row.id attempts error.message
      return { report with dead := report.dead + 1 }

def publish (row : OutboxRow) : Activity (Except BrokerError Unit) := do
  let engine ← get
  let (result, broker) := engine.broker.publish row.topic row.partitionKey row.payload
  set { engine with broker }
  return result

/-- Publishes the claimed rows, up to the first that the store no longer has. -/
def publishRows (dispatcher : DispatcherSetup) (now : Instant) :
    DispatchReport → List OutboxRow → Activity (Except SettlementError DispatchReport)
  | report, [] => return .ok report
  | report, row :: rest => do
    let result ← publish row
    match ← Engine.perform (dispatcher.settle row result report now) with
    | .ok report => dispatcher.publishRows now report rest
    | .error cause => return .error cause

/-- One cycle of a dispatcher. -/
def dispatch (dispatcher : DispatcherSetup) (now : Instant) :
    Activity (Except SettlementError DispatchReport) := do
  match ← Engine.perform (Store.reclaimStale dispatcher.lease now) with
  | .error cause => return .error cause
  | .ok reclaimed =>
    match ← Engine.perform (Store.claimBatch dispatcher.batch now) with
    | .error cause => return .error cause
    | .ok rows => dispatcher.publishRows now { reclaimed, claimed := rows.length } rows

end DispatcherSetup

end SpotSettlement
