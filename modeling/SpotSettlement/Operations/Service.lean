import SpotSettlement.Engine.Replay
import SpotSettlement.Operations.MediaType
import SpotSettlement.Operations.ReplayWish
import SpotSettlement.Operations.Route
import SpotSettlement.Time.Calendar

namespace SpotSettlement

/-! # The service for operators

Operators ask over HTTP whether the engine is alive and how its connector fares, and ask for
replays.
-/

structure OperatorRequest where
  method : String
  target : String
  contentType : Option String
  body : String
  deriving DecidableEq, Repr, Inhabited

/-- The answer: a status, and a body if it is one of ours. -/
structure OperatorResponse where
  status : Nat
  body : Option Json
  deriving Inhabited

structure ServiceSetup where
  setup : Setup
  /-- The connectors for which replays can be asked for, in the order of their names. -/
  connectors : List String
  /-- The version that the service says it is. -/
  version : String
  deriving Inhabited

def ConnectorHealth.toJson (health : ConnectorHealth) : Json := .object [
  ("connector_name", .string health.connector), ("status", Coded.toJson health.status),
  ("last_success_at", Json.ofOption Instant.toJson health.lastSuccessAt),
  ("last_poll_at", Json.ofOption Instant.toJson health.lastPollAt),
  ("last_error_at", Json.ofOption Instant.toJson health.lastErrorAt),
  ("last_error_code", Json.ofOption .string health.lastErrorCode),
  ("last_error_message", Json.ofOption .string health.lastErrorMessage),
  ("open_orders_fetched", .ofNat health.openOrders), ("trades_fetched", .ofNat health.trades),
  ("websocket_state", Coded.toJson health.websocket),
  ("reconnect_attempts", .ofNat health.reconnectAttempts),
  ("stream_fills_inserted", .ofNat health.stream.inserted),
  ("stream_fills_duplicate", .ofNat health.stream.duplicate),
  ("stream_fills_unmapped", .ofNat health.stream.unmapped),
  ("stream_errors", .ofNat health.stream.errors), ("updated_at", health.updatedAt.toJson)]

/-- A replay request as operators see it.  What is absent is left out. -/
def ReplayRequest.toJson (request : ReplayRequest) (deduplicated : Bool) : Json :=
  let present (key : String) : Option Json → List (String × Json)
    | some value => [(key, value)]
    | none => []
  .object ([("request_id", .string request.id), ("connector", .string request.connector),
      ("trigger", Coded.toJson request.trigger), ("status", Coded.toJson request.status),
      ("deduplicated", .bool deduplicated)] ++
    present "reason" (request.reason.map .string) ++
    [("requested_at", request.requestedAt.toJson)] ++
    present "started_at" (request.startedAt.map Instant.toJson) ++
    present "completed_at" (request.completedAt.map Instant.toJson) ++
    present "error" (request.error.map .string))

namespace OperatorResponse

/-- An answer without a body of ours. -/
def bare (status : Nat) : OperatorResponse := ⟨status, none⟩

/-- A refusal with a code and a message. -/
def refusal (status : Nat) (code message : String) : OperatorResponse :=
  ⟨status, some (.object [("code", .string code), ("message", .string message)])⟩

/-- The refusal for a cause. -/
def ofCause (cause : SettlementError) : OperatorResponse :=
  refusal cause.httpStatus cause.reason cause.message

/-- An answer that was given to a question about its head alone. -/
def withoutBody (response : OperatorResponse) : OperatorResponse := { response with body := none }

end OperatorResponse

namespace ServiceSetup

/-- The connectors of the given names, each once and in order. -/
def connectorsOf (names : List String) : List String :=
  (names.mergeSort fun a b => decide (a ≤ b)).eraseDups

/-- The health of our connector, with its status derived now. -/
def currentHealth (service : ServiceSetup) (now : Instant) : Activity ConnectorHealth := do
  let health := (← get).health
  return { health with status := health.deriveStatus service.setup.downThreshold now }

def liveness (service : ServiceSetup) (now : Instant) : Activity OperatorResponse := do
  let health ← service.currentHealth now
  return ⟨200, some (.object [("status", .string "healthy"), ("version", .string service.version),
    ("connectors", .array [.object [("name", .string service.setup.exchange),
      ("status", Coded.toJson health.status)]])])⟩

def connectorHealth (service : ServiceSetup) (name : List Char) (now : Instant) :
    Activity OperatorResponse := do
  match Text.percentDecoded? (String.ofList name) with
  | none => return .bare 400
  | some name =>
    if name = service.setup.exchange then
      return ⟨200, some (← service.currentHealth now).toJson⟩
    else return .refusal 404 "UNKNOWN_CONNECTOR" ("unknown connector: " ++ name)

def replay (id : List Char) : Activity OperatorResponse := do
  match Text.percentDecoded? (String.ofList id) with
  | none => return .bare 400
  | some id =>
    match ← Setup.replayStatus id with
    | .ok request => return ⟨200, some (request.toJson false)⟩
    | .error cause => return .ofCause cause

/-- Takes the wish for a replay.  The wish is accepted, unless an open request stands in for it. -/
def requestReplay (service : ServiceSetup) (request : OperatorRequest) (now : Instant) :
    Activity OperatorResponse := do
  let media := request.contentType.bind MediaType.ofText?
  if ¬ (media.map MediaType.isJson).getD false then
    return .bare 415
  match ReplayWish.ofBody request.body with
  | .error .malformed => return .bare 400
  | .error .misshapen => return .bare 422
  | .ok wish =>
    match ← service.setup.requestReplay service.connectors wish.connector wish.reason
        wish.requestedBy now with
    | .error cause => return .ofCause cause
    | .ok outcome =>
      return ⟨if outcome.isDeduplicated then 200 else 202,
        some (outcome.request.toJson outcome.isDeduplicated)⟩

/-- Answers a question that changes nothing, given how it is asked. -/
def question (method : String) (answer : Activity OperatorResponse) :
    Activity OperatorResponse := do
  if method = "GET" then answer
  else if method = "HEAD" then return (← answer).withoutBody
  else return .bare 405

def serve (service : ServiceSetup) (request : OperatorRequest) (now : Instant) :
    Activity OperatorResponse :=
  match Route.ofTarget? request.target with
  | none => return .bare 404
  | some .liveness => question request.method (service.liveness now)
  | some (.connectorHealth name) =>
    question request.method (service.connectorHealth name now)
  | some (.replay id) => question request.method (replay id)
  | some .replays =>
    if request.method = "POST" then service.requestReplay request now else return .bare 405

end ServiceSetup

end SpotSettlement
