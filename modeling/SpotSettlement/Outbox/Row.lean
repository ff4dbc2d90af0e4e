import SpotSettlement.Outbox.Vocabulary
import SpotSettlement.Outbox.Payload
import SpotSettlement.Outbox.Schedule

namespace SpotSettlement

/-! # Outbox rows

An event is wrapped into an envelope and kept as a row until it is published.  A row is leased to a
dispatcher, published, put off after a failure or set aside after too many; a lease that is
abandoned returns it, and a row that was set aside can be queued again.
-/

/-- An event body with what every event carries. -/
structure EventEnvelope (P : Type) where
  eventId : String
  eventType : EventType
  version : Nat
  correlationId : String
  occurredAt : Instant
  payload : P
  deriving DecidableEq

namespace EventEnvelope

variable {P : Type} [EventPayload P]

def names : List String :=
  ["event_id", "event_type", "schema_version", "correlation_id", "occurred_at", "payload"]

def toJson (envelope : EventEnvelope P) : Json := .object [
  ("event_id", .string envelope.eventId), ("event_type", Coded.toJson envelope.eventType),
  ("schema_version", .ofNat envelope.version),
  ("correlation_id", .string envelope.correlationId),
  ("occurred_at", envelope.occurredAt.toJson), ("payload", EventPayload.toJson envelope.payload)]

def ofJson? (value : Json) : Option (EventEnvelope P) := do
  let value ← value.record? names
  let eventId ← value.field? "event_id" Json.string?
  let eventType ← value.field? "event_type" Coded.ofJson?
  let version ← value.field? "schema_version" (Json.unsigned? 32)
  let correlationId ← value.field? "correlation_id" Json.string?
  let occurredAt ← value.field? "occurred_at" Instant.ofJson?
  let payload ← value.field? "payload" EventPayload.ofJson?
  return { eventId, eventType, version, correlationId, occurredAt, payload }

end EventEnvelope

/-- An event on its way to the broker. -/
structure OutboxRow where
  id : String
  aggregateType : AggregateType
  aggregateId : String
  eventType : EventType
  version : Nat
  /-- The envelope. -/
  payload : Json
  topic : String
  partitionKey : String
  status : OutboxStatus
  /-- The failed attempts to publish it. -/
  attempts : Nat
  createdAt : Instant
  nextAttemptAt : Instant
  /-- The start of the lease while a dispatcher holds the row. -/
  processingStartedAt : Option Instant
  publishedAt : Option Instant
  lastError : Option String
  deriving Inhabited

namespace OutboxRow

/-- The greatest count of attempts; there the count stays. -/
def attemptLimit : Nat := wordSize 32 - 1

/-- A new row for an event body that its schema allows. -/
def ofPayload {P : Type} [EventPayload P] (id namePrefix : String) (payload : P) (now : Instant) :
    Except Failure OutboxRow := do
  EventPayload.validate payload
  let schema := EventPayload.schema P
  let key := EventPayload.naturalKey payload
  let envelope : EventEnvelope P :=
    { eventId := id, eventType := schema.eventType, version := schema.version
      correlationId := key, occurredAt := now, payload }
  return {
    id
    aggregateType := schema.aggregateType
    aggregateId := EventPayload.aggregateId payload
    eventType := schema.eventType
    version := schema.version
    payload := envelope.toJson
    topic := schema.topic namePrefix
    partitionKey := key
    status := .new
    attempts := 0
    createdAt := now
    nextAttemptAt := now
    processingStartedAt := none
    publishedAt := none
    lastError := none }

/-- Reads the envelope back as a body of the given type. -/
def decode (P : Type) [EventPayload P] (row : OutboxRow) :
    Except OutboxError (EventEnvelope P) :=
  match EventEnvelope.ofJson? row.payload with
  | some envelope => .ok envelope
  | none => .error .undecodable

/-- Leases the row to a dispatcher. -/
def markProcessing (row : OutboxRow) (now : Instant) : OutboxRow :=
  { row with status := .processing, processingStartedAt := some now }

def markPublished (row : OutboxRow) (now : Instant) : OutboxRow :=
  { row with
    status := .published
    publishedAt := some now
    processingStartedAt := none
    lastError := none }

/-- Puts the row off until a moment. -/
def markFailed (row : OutboxRow) (attempts : Nat) (nextAttemptAt : Instant) (error : String) :
    OutboxRow :=
  { row with
    status := .failed
    attempts
    nextAttemptAt
    processingStartedAt := none
    lastError := some error }

def markDead (row : OutboxRow) (attempts : Nat) (error : String) : OutboxRow :=
  { row with
    status := .dead
    attempts
    processingStartedAt := none
    lastError := some error }

/-- What one more failure means for the row. -/
def nextFailure (row : OutboxRow) (schedule : RetrySchedule) (now : Instant) :
    FailureDisposition :=
  schedule.onFailure (min (row.attempts + 1) attemptLimit) now

/-- The row after a failure with the given consequence. -/
def settleFailure (row : OutboxRow) (error : String) : FailureDisposition → OutboxRow
  | .retry attempts nextAttemptAt => row.markFailed attempts nextAttemptAt error
  | .dead attempts => row.markDead attempts error

/-- Returns an abandoned lease. -/
def reclaim (row : OutboxRow) (now : Instant) : OutboxRow :=
  { row with status := .failed, processingStartedAt := none, nextAttemptAt := now }

/-- Queues the row again as if it had never failed. -/
def requeue (row : OutboxRow) (now : Instant) : OutboxRow :=
  { row with status := .new, attempts := 0, nextAttemptAt := now, processingStartedAt := none }

end OutboxRow

end SpotSettlement
