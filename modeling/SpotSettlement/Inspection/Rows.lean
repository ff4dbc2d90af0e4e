import SpotSettlement.Connector.Health
import SpotSettlement.Connector.Replay
import SpotSettlement.Inspection.Basic
import SpotSettlement.Outbox.Row
import SpotSettlement.Wallet.Balance
import SpotSettlement.Wallet.Reservation

namespace SpotSettlement

/-! # Rows of the store inspected -/

/-- A balance in short: what is free, what is held back, and since when. -/
instance : Inspect WalletBalance where
  inspect balance := .array [
    inspect balance.available, inspect balance.reserved, inspect balance.updatedAt]

/-- A reservation in short. -/
instance : Inspect WalletReservation where
  inspect held := .array [inspect held.asset, inspect held.amount, inspect held.status]

/-- A reservation with the time of its last change. -/
def WalletReservation.inspectChange (held : WalletReservation) : Json := .object [
  ("amount", inspect held.amount), ("status", inspect held.status),
  ("updated", inspect held.updatedAt)]

/-- What an operation on a balance and a reservation answered, and what both are after it. -/
def WalletBalance.inspectAfter (balance : WalletBalance) (reservation : Option WalletReservation)
    (result : Json) : Except Decimal.Overflow Json := do
  let total ← balance.total
  return .object [
    ("result", result), ("available", inspect balance.available),
    ("reserved", inspect balance.reserved), ("total", inspect total),
    ("updated", inspect balance.updatedAt),
    ("reservation", Json.ofOption WalletReservation.inspectChange reservation)]

instance : Inspect FailureDisposition where
  inspect
    | .retry attempts next => .object [("retry", inspect attempts), ("next", inspect next)]
    | .dead attempts => .object [("dead", inspect attempts)]

/-- A row with the payload put in where it belongs. -/
def OutboxRow.inspectWith (row : OutboxRow) (payload : List (String × Json)) : Json :=
  .object ([("id", inspect row.id), ("aggregate_type", inspect row.aggregateType),
      ("aggregate_id", inspect row.aggregateId), ("event_type", inspect row.eventType),
      ("schema_version", inspect row.version)] ++ payload ++
    [("topic", inspect row.topic), ("partition_key", inspect row.partitionKey),
      ("status", inspect row.status), ("attempt_count", inspect row.attempts),
      ("created", inspect row.createdAt), ("next_attempt", inspect row.nextAttemptAt),
      ("processing_started", inspect row.processingStartedAt),
      ("published", inspect row.publishedAt), ("last_error", inspect row.lastError)])

instance : Inspect OutboxRow := ⟨fun row => row.inspectWith [("payload", row.payload)]⟩

/-- A row as it is delivered, without what it carries. -/
def OutboxRow.inspectDelivery (row : OutboxRow) : Json := row.inspectWith []

/-- What a row carries, read as an event of the given kind. -/
def OutboxRow.inspectDecoded (row : OutboxRow) (P : Type) [EventPayload P] : Json :=
  inspect ((row.decode P).map fun (envelope : EventEnvelope P) => Json.object [
    ("same_id", inspect (envelope.eventId == row.id)),
    ("correlation_id", inspect envelope.correlationId), ("version", inspect envelope.version),
    ("event_type", inspect envelope.eventType), ("occurred", inspect envelope.occurredAt),
    ("payload", EventPayload.toJson envelope.payload)])

/-- What a stream brought: fills that were new, known or nobody's, and errors. -/
instance : Inspect StreamCounters where
  inspect counters :=
    inspect [counters.inserted, counters.duplicate, counters.unmapped, counters.errors]

instance : Inspect ConnectorHealth where
  inspect health := .object [
    ("connector", inspect health.connector), ("status", inspect health.status),
    ("last_success", inspect health.lastSuccessAt), ("last_poll", inspect health.lastPollAt),
    ("last_error", inspect health.lastErrorAt), ("code", inspect health.lastErrorCode),
    ("message", inspect health.lastErrorMessage), ("open_orders", inspect health.openOrders),
    ("trades", inspect health.trades), ("ws", inspect health.websocket),
    ("attempts", inspect health.reconnectAttempts), ("stream", inspect health.stream),
    ("updated", inspect health.updatedAt)]

instance : Inspect ReplayRequest where
  inspect request := .object [
    ("id", inspect request.id), ("connector", inspect request.connector),
    ("trigger", inspect request.trigger), ("reason", inspect request.reason),
    ("status", inspect request.status), ("by", inspect request.requestedBy),
    ("requested", inspect request.requestedAt), ("started", inspect request.startedAt),
    ("completed", inspect request.completedAt), ("error", inspect request.error)]

/-- A replay request, after whether an open one stood in for it. -/
instance : Inspect ReplayEnqueued where
  inspect outcome := .array [inspect outcome.isDeduplicated, inspect outcome.request]

end SpotSettlement
