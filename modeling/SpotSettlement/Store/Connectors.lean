import SpotSettlement.Store.Basic

namespace SpotSettlement.Store

/-! # Connectors in the store

There is one health row for a connector.  Replay requests form a queue: a new one is refused in
favour of an open one like it within the window, the oldest one that waits is claimed first, and a
claimed one is completed.
-/

/-- Refuses to go on while the rows of connectors cannot be reached. -/
def reachConnectors : Work Unit := do
  match (← get).connectorOutage with
  | some problem => refuse (StoreError.storage problem)
  | none => return ()

/-- Replaces the health row of the same connector, or adds one. -/
def putHealth (health : ConnectorHealth) : List ConnectorHealth → List ConnectorHealth
  | [] => [health]
  | other :: rest =>
    if other.connector == health.connector then health :: rest else other :: putHealth health rest

def saveHealth (health : ConnectorHealth) : Work Unit := do
  reachConnectors
  modify fun store => { store with health := putHealth health store.health }

def findHealth (connector : String) : Work (Option ConnectorHealth) := do
  reachConnectors
  return (← get).health.find? (·.connector == connector)

/-- Whether an open request stands in for a new one. -/
def standsFor (window : Duration) (request existing : ReplayRequest) : Bool :=
  existing.connector == request.connector && existing.trigger == request.trigger &&
    existing.status.isOpen && request.requestedAt.before window ≤ existing.requestedAt

/-- Queues a replay request, unless an open one stands in for it. -/
def enqueueReplay (request : ReplayRequest) (window : Duration) : Work ReplayEnqueued := do
  reachConnectors
  let store ← get
  match store.replays.find? (standsFor window request) with
  | some existing => return .deduplicated existing
  | none =>
    set { store with replays := store.replays ++ [request] }
    return .enqueued request

/-- The first of the requests with the earliest moment. -/
def earliest? : List ReplayRequest → Option ReplayRequest
  | [] => none
  | request :: rest =>
    match earliest? rest with
    | some other => if request.requestedAt ≤ other.requestedAt then some request else some other
    | none => some request

/-- Replaces the first request that has the same identifier. -/
def putReplay (request : ReplayRequest) : List ReplayRequest → List ReplayRequest
  | [] => []
  | other :: rest =>
    if other.id == request.id then request :: rest else other :: putReplay request rest

/-- Claims the oldest waiting request of a connector. -/
def claimReplay (connector : String) (now : Instant) : Work (Option ReplayRequest) := do
  reachConnectors
  let store ← get
  let waiting := store.replays.filter fun request =>
    request.connector == connector && request.status == .pending
  match earliest? waiting with
  | none => return none
  | some request =>
    let claimed := { request with status := .running, startedAt := some now }
    set { store with replays := putReplay claimed store.replays }
    return some claimed

def replay? (store : Store) (id : String) : Option ReplayRequest :=
  store.replays.find? (·.id == id)

def completeReplay (id : String) (status : ReplayStatus) (error : Option String)
    (now : Instant) : Work Unit := do
  let store ← get
  match store.replay? id with
  | none => refuse (StoreError.notFound "connector_replay_request" id)
  | some request =>
    let completed := { request with status, completedAt := some now, error }
    set { store with replays := putReplay completed store.replays }

end SpotSettlement.Store
