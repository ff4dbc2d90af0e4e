import SpotSettlement.Proofs.Decimal.Value
import SpotSettlement.Proofs.Outbox.Envelopes
import SpotSettlement.Proofs.Outbox.Payloads
import SpotSettlement.Proofs.Settlement.Runs

namespace SpotSettlement

/-! # What comes back from the outbox

A valid body of any type makes a row, and the row is read back as an envelope of the same type with
the same content.  Each type has its own topic.
-/

namespace Decimal

theorem readBack_of_sign {d : Decimal} (kept : (d.negative && d.mantissa != 0) = d.negative) :
    d.readBack = d := by
  rw [readBack]
  simp only [kept]

/-- Reading back keeps the value and the scale; only a zero with a sign is changed at all. -/
theorem readBack_alike (d : Decimal) :
    (d.readBack == d) = true ∧ d.readBack.scale = d.scale ∧
      (d.readBack = d ∨ d.negative = true ∧ d.mantissa = 0) := by
  by_cases zero : d.mantissa = 0
  · have value : d.readBack.value = d.value := by
      simp [Decimal.value, readBack, coefficient, zero]
    refine ⟨beq_iff_value.mpr value, rfl, ?_⟩
    cases sign : d.negative with
    | true => exact .inr ⟨rfl, zero⟩
    | false => exact .inl (readBack_of_sign (by rw [sign, Bool.false_and]))
  · rw [readBack_of_sign (by simp [zero])]
    exact ⟨beq_iff_value.mpr rfl, rfl, .inl rfl⟩

end Decimal

theorem Side.ofJson?_toJson (side : Side) : Coded.ofJson? (Coded.toJson side) = some side := by
  cases side <;> rfl

theorem OrderStatus.ofJson?_toJson (status : OrderStatus) :
    Coded.ofJson? (Coded.toJson status) = some status := by
  cases status <;> rfl

namespace Json

variable {α : Type} {key : String} {value member : Json} {read : Json → Option α}

theorem optional?_string (text : Option String) :
    optional? string? (ofOption .string text) = some text := by
  cases text <;> rfl

theorem field?_eq {result : α} (found : value.get? key = some member)
    (reads : read member = some result) : value.field? key read = some result := by
  rw [field?, found, Option.bind_some, reads]

theorem optionalField?_eq {result : Option α} (found : value.get? key = some member)
    (reads : optional? read member = some result) :
    value.optionalField? key read = some result := by
  simp only [optionalField?, found, reads]

end Json

open Json
open Calendar (bind_read)

namespace OrderSubmitted

def mapDecimals (change : Decimal → Decimal) (body : OrderSubmitted) : OrderSubmitted :=
  { body with quantity := change body.quantity, limitPrice := body.limitPrice.map change }

end OrderSubmitted

namespace OrderProgress

def mapDecimals (change : Decimal → Decimal) (body : OrderProgress) : OrderProgress :=
  { body with filled := change body.filled }

theorem ofJson?_toJson {body : OrderProgress} (within : body.updatedAt.inRange = true) :
    ofJson? body.toJson = some (body.mapDecimals Decimal.readBack) := by
  unfold ofJson?
  refine Eq.trans (bind_read (record?_object _ _)) ?_
  refine Eq.trans (bind_read (field?_eq rfl rfl)) ?_
  refine Eq.trans (bind_read (field?_eq rfl rfl)) ?_
  refine Eq.trans (bind_read (field?_eq rfl (OrderStatus.ofJson?_toJson body.status))) ?_
  refine Eq.trans (bind_read (field?_eq rfl (Decimal.ofJson?_toJson body.filled))) ?_
  exact bind_read (field?_eq rfl (Instant.ofJson?_toJson within))

end OrderProgress

namespace OrderChange

def mapDecimals (change : Decimal → Decimal) (body : OrderChange) : OrderChange :=
  { body with
    quantity := change body.quantity
    filled := change body.filled
    remaining := change body.remaining }

theorem ofJson?_toJson {body : OrderChange} (within : body.updatedAt.inRange = true) :
    ofJson? body.toJson = some (body.mapDecimals Decimal.readBack) := by
  unfold ofJson?
  refine Eq.trans (bind_read (record?_object _ _)) ?_
  refine Eq.trans (bind_read (field?_eq rfl rfl)) ?_
  refine Eq.trans (bind_read (field?_eq rfl rfl)) ?_
  refine Eq.trans (bind_read (field?_eq rfl rfl)) ?_
  refine Eq.trans (bind_read (field?_eq rfl (OrderStatus.ofJson?_toJson body.previousStatus))) ?_
  refine Eq.trans (bind_read (field?_eq rfl (OrderStatus.ofJson?_toJson body.status))) ?_
  refine Eq.trans (bind_read (field?_eq rfl (Decimal.ofJson?_toJson body.quantity))) ?_
  refine Eq.trans (bind_read (field?_eq rfl (Decimal.ofJson?_toJson body.filled))) ?_
  refine Eq.trans (bind_read (field?_eq rfl (Decimal.ofJson?_toJson body.remaining))) ?_
  refine Eq.trans (bind_read (field?_eq rfl rfl)) ?_
  refine Eq.trans (bind_read (optionalField?_eq rfl (optional?_string body.exchangeOrderId))) ?_
  refine Eq.trans (bind_read (optionalField?_eq rfl (optional?_string body.reason))) ?_
  exact bind_read (field?_eq rfl (Instant.ofJson?_toJson within))

end OrderChange

namespace ExecutionRecorded

def mapDecimals (change : Decimal → Decimal) (body : ExecutionRecorded) : ExecutionRecorded :=
  { body with
    quantity := change body.quantity
    price := change body.price
    fee := change body.fee }

theorem ofJson?_toJson {body : ExecutionRecorded} (within : body.executedAt.inRange = true) :
    ofJson? body.toJson = some (body.mapDecimals Decimal.readBack) := by
  unfold ofJson?
  refine Eq.trans (bind_read (record?_object _ _)) ?_
  refine Eq.trans (bind_read (field?_eq rfl rfl)) ?_
  refine Eq.trans (bind_read (field?_eq rfl rfl)) ?_
  refine Eq.trans (bind_read (field?_eq rfl rfl)) ?_
  refine Eq.trans (bind_read (field?_eq rfl rfl)) ?_
  refine Eq.trans (bind_read (field?_eq rfl rfl)) ?_
  refine Eq.trans (bind_read (field?_eq rfl rfl)) ?_
  refine Eq.trans (bind_read (field?_eq rfl (Side.ofJson?_toJson body.side))) ?_
  refine Eq.trans (bind_read (field?_eq rfl (Decimal.ofJson?_toJson body.quantity))) ?_
  refine Eq.trans (bind_read (field?_eq rfl (Decimal.ofJson?_toJson body.price))) ?_
  refine Eq.trans (bind_read (optionalField?_eq rfl (optional?_string body.feeAsset))) ?_
  refine Eq.trans (bind_read (field?_eq rfl (Decimal.ofJson?_toJson body.fee))) ?_
  exact bind_read (field?_eq rfl (Instant.ofJson?_toJson within))

end ExecutionRecorded

namespace BalanceUpdated

def mapDecimals (change : Decimal → Decimal) (body : BalanceUpdated) : BalanceUpdated :=
  { body with available := change body.available, reserved := change body.reserved }

theorem ofJson?_toJson {body : BalanceUpdated} (within : body.updatedAt.inRange = true) :
    ofJson? body.toJson = some (body.mapDecimals Decimal.readBack) := by
  unfold ofJson?
  refine Eq.trans (bind_read (record?_object _ _)) ?_
  refine Eq.trans (bind_read (field?_eq rfl rfl)) ?_
  refine Eq.trans (bind_read (field?_eq rfl rfl)) ?_
  refine Eq.trans (bind_read (field?_eq rfl (Decimal.ofJson?_toJson body.available))) ?_
  refine Eq.trans (bind_read (field?_eq rfl (Decimal.ofJson?_toJson body.reserved))) ?_
  refine Eq.trans (bind_read (field?_eq rfl rfl)) ?_
  refine Eq.trans (bind_read (optionalField?_eq rfl (optional?_string body.orderId))) ?_
  exact bind_read (field?_eq rfl (Instant.ofJson?_toJson within))

end BalanceUpdated

inductive PayloadKind where
  | orderSubmitted
  | orderProgress
  | orderChange
  | executionRecorded
  | balanceUpdated
  deriving DecidableEq, Repr

namespace PayloadKind

abbrev Body : PayloadKind → Type
  | orderSubmitted => OrderSubmitted
  | orderProgress => OrderProgress
  | orderChange => OrderChange
  | executionRecorded => ExecutionRecorded
  | balanceUpdated => BalanceUpdated

instance (kind : PayloadKind) : EventPayload kind.Body :=
  match kind with
  | orderSubmitted => inferInstanceAs (EventPayload OrderSubmitted)
  | orderProgress => inferInstanceAs (EventPayload OrderProgress)
  | orderChange => inferInstanceAs (EventPayload OrderChange)
  | executionRecorded => inferInstanceAs (EventPayload ExecutionRecorded)
  | balanceUpdated => inferInstanceAs (EventPayload BalanceUpdated)

def schema (kind : PayloadKind) : EventSchema := EventPayload.schema kind.Body

/-- The moment that a body tells of. -/
def moment : (kind : PayloadKind) → kind.Body → Instant
  | orderSubmitted => OrderSubmitted.createdAt
  | orderProgress => OrderProgress.updatedAt
  | orderChange => OrderChange.updatedAt
  | executionRecorded => ExecutionRecorded.executedAt
  | balanceUpdated => BalanceUpdated.updatedAt

def mapDecimals (change : Decimal → Decimal) : (kind : PayloadKind) → kind.Body → kind.Body
  | orderSubmitted => OrderSubmitted.mapDecimals change
  | orderProgress => OrderProgress.mapDecimals change
  | orderChange => OrderChange.mapDecimals change
  | executionRecorded => ExecutionRecorded.mapDecimals change
  | balanceUpdated => BalanceUpdated.mapDecimals change

theorem ofJson?_toJson {kind : PayloadKind} {body : kind.Body}
    (within : (kind.moment body).inRange = true) :
    EventPayload.ofJson? (EventPayload.toJson body) =
      some (kind.mapDecimals Decimal.readBack body) := by
  cases kind with
  | orderSubmitted => exact OrderSubmitted.ofJson?_toJson within
  | orderProgress => exact OrderProgress.ofJson?_toJson within
  | orderChange => exact OrderChange.ofJson?_toJson within
  | executionRecorded => exact ExecutionRecorded.ofJson?_toJson within
  | balanceUpdated => exact BalanceUpdated.ofJson?_toJson within

theorem version_lt (kind : PayloadKind) : kind.schema.version < wordSize 32 := by
  cases kind <;> decide

/-- What the name of a topic says of the schema. -/
def topicSuffix (kind : PayloadKind) : String :=
  "." ++ (Coded.code kind.schema.eventType ++ (".v" ++ toString kind.schema.version))

theorem topic_eq (kind : PayloadKind) (namePrefix : String) :
    kind.schema.topic namePrefix = namePrefix ++ kind.topicSuffix := by
  simp only [EventSchema.topic, EventType.topic, topicSuffix, String.append_assoc]

theorem topicSuffix_injective : ∀ kind other : PayloadKind,
    other.topicSuffix = kind.topicSuffix → other = kind := by
  intro kind other
  cases kind <;> cases other <;> decide

theorem topic_injective {kind other : PayloadKind} {namePrefix : String}
    (same : other.schema.topic namePrefix = kind.schema.topic namePrefix) : other = kind := by
  rw [topic_eq, topic_eq, String.append_right_inj] at same
  exact topicSuffix_injective kind other same

end PayloadKind

namespace Instant

def year (t : Instant) : Int :=
  (Calendar.Day.ofNumber ((t.counted.fdiv 1000000000).fdiv 86400)).year

/-- The calendar has all moments of the years with four digits. -/
theorem inRange_of_year {t : Instant} (low : 0 ≤ t.year) (high : t.year ≤ 9999) :
    t.inRange = true := by
  obtain ⟨era, year, day, month, years, days, months, -, shifted, found⟩ :=
    Calendar.ofNumber_eq ((t.counted.fdiv 1000000000).fdiv 86400)
  have length : day ≤ 365 := by
    split at days <;> omega
  have named : t.year = year + era * 400 + if month < 10 then 0 else 1 := by
    rw [Instant.year, found]
  rw [named] at low high
  rw [Int.fdiv_eq_ediv_of_nonneg _ (by decide), Int.fdiv_eq_ediv_of_nonneg _ (by decide)] at shifted
  unfold Calendar.daysBefore at shifted
  refine decide_eq_true ⟨?_, ?_⟩
  · change -8334601228800000000000 ≤ t.counted
    split at low <;> omega
  · change t.counted ≤ 8210266876799999999999
    split at high <;> omega

end Instant

namespace PayloadKind

/-- A valid body makes a row under any prefix, and the row is read back as an envelope of its type,
under the identifier and the key of the row, with the content of the body.  No other type has the
topic of the row.  The moments may be any that the calendar has. -/
theorem row_is_read_back (kind : PayloadKind) (body : kind.Body) (id namePrefix : String)
    (now : Instant) (valid : EventPayload.validate body = .ok ()) (occurred : now.inRange = true)
    (told : (kind.moment body).inRange = true) :
    (∃ row, OutboxRow.ofPayload id namePrefix body now = .ok row ∧ row.id = id ∧
      row.partitionKey = EventPayload.naturalKey body ∧
      row.topic = kind.schema.topic namePrefix ∧
      row.decode kind.Body = .ok
        { eventId := row.id
          eventType := kind.schema.eventType
          version := kind.schema.version
          correlationId := row.partitionKey
          occurredAt := now
          payload := kind.mapDecimals Decimal.readBack body }) ∧
    (∀ d : Decimal, (d.readBack == d) = true ∧ d.readBack.scale = d.scale ∧
      (d.readBack = d ∨ d.negative = true ∧ d.mantissa = 0)) ∧
    (∀ other : PayloadKind,
      other.schema.topic namePrefix = kind.schema.topic namePrefix → other = kind) ∧
    ∀ t : Instant, 0 ≤ t.year → t.year ≤ 9999 → t.inRange = true := by
  obtain ⟨row, made⟩ := (OutboxRow.ofPayload_ok id namePrefix body now).mpr valid
  refine ⟨⟨row, made, ?_⟩, Decimal.readBack_alike, fun _ => topic_injective,
    fun _ => Instant.inRange_of_year⟩
  simp only [OutboxRow.ofPayload, bind_ok_iff, pure_ok_iff] at made
  obtain ⟨_, _, rfl⟩ := made
  refine ⟨rfl, rfl, rfl, ?_⟩
  rw [OutboxRow.decode, EventEnvelope.ofJson?_toJson occurred kind.version_lt (ofJson?_toJson told)]
  rfl

end PayloadKind

namespace Sample

/-- Half of an order of two units has been filled. -/
def halfFilled : OrderChange where
  orderId := "o-1"
  account := "a-1"
  instrument := "BTCUSDT"
  previousStatus := .new
  status := .partiallyFilled
  quantity := units 2
  filled := units 1
  remaining := units 1
  exchange := "binance"
  exchangeOrderId := some "x-1"
  reason := none
  updatedAt := start

end Sample

namespace PayloadKind

/-- The row of the sample change is read back with the change. -/
theorem sample_row_is_read_back :
    ∃ row, OutboxRow.ofPayload "e-1" "spot" Sample.halfFilled Sample.start = .ok row ∧
      row.decode OrderChange =
        .ok ⟨"e-1", .orderUpdated, 2, "o-1", Sample.start, Sample.halfFilled⟩ := by
  have readBack := row_is_read_back .orderChange Sample.halfFilled "e-1" "spot" Sample.start
    rfl (by decide) (by decide)
  obtain ⟨row, made, id, key, -, decoded⟩ := readBack.1
  rw [id, key] at decoded
  exact ⟨row, made, decoded⟩

end PayloadKind

end SpotSettlement
