import SpotSettlement.Engine.Reconciliation

namespace SpotSettlement.Setup

/-! # Replays

Operators ask for a replay of a connector they know.  A worker claims the oldest waiting request,
runs a cycle for it, and completes it with what came of the cycle.
-/

/-- Asks for a replay of a connector, by default that of our exchange. -/
def requestReplay (setup : Setup) (connectors : List String) (connector reason requestedBy :
    Option String) (now : Instant) : Activity (Except SettlementError ReplayEnqueued) :=
  let connector := connector.getD setup.exchange
  if connectors.contains connector then
    Engine.enqueueReplay connector .manual reason requestedBy now setup.dedupeWindow
  else return .error (.unknownConnector connector)

def replayStatus (id : String) : Activity (Except SettlementError ReplayRequest) := do
  match (← get).store.replay? id with
  | some request => return .ok request
  | none => return .error (.replayNotFound id)

/-- What is recorded of a replay, given what came of its cycle. -/
def replayResult : Except ExchangeError CycleReport → ReplayStatus × Option String
  | .ok report =>
    if report.isComplete then (.succeeded, none) else (.failed, some report.summary)
  | .error error => (.failed, some error.message)

/-- Runs the oldest waiting request of our connector, if there is one. -/
def runReplay (setup : Setup) (now : Instant) :
    Activity (Except SettlementError (Option ReplayRequest)) := do
  match ← Engine.perform (Store.claimReplay setup.exchange now) with
  | .error cause => return .error cause
  | .ok none => return .ok none
  | .ok (some request) =>
    let (status, error) := replayResult (← setup.runCycle now)
    match ← Engine.perform (Store.completeReplay request.id status error now) with
    | .error cause => return .error cause
    | .ok () => return .ok ((← get).store.replay? request.id)

end SpotSettlement.Setup
