import SpotSettlement.Engine.Submission
import SpotSettlement.Proofs.Decimal.Text
import SpotSettlement.Proofs.Settlement.Announcement
import SpotSettlement.Proofs.Time.Text

namespace SpotSettlement

/-! # Reading back announcements

The envelope of an event is read back with what it carries, and the announcement of a submitted
order with the order that it names.
-/

theorem Instant.ofJson?_toJson {t : Instant} (within : t.inRange = true) :
    Instant.ofJson? t.toJson = some t :=
  Instant.ofText?_text within

theorem Json.unsigned?_ofNat {bits value : Nat} (bound : value < wordSize bits) :
    Json.unsigned? bits (.ofNat value) = some value := by
  have fits : (0 : Int) ≤ value ∧ (value : Int) ≤ wordSize bits - 1 := by omega
  rw [unsigned?, ofNat, integer?, if_pos fits]
  rfl

theorem EventEnvelope.ofJson?_toJson {P : Type} [EventPayload P] {envelope : EventEnvelope P}
    {payload : P} (within : envelope.occurredAt.inRange = true)
    (version : envelope.version < wordSize 32)
    (read : EventPayload.ofJson? (EventPayload.toJson envelope.payload) = some payload) :
    EventEnvelope.ofJson? envelope.toJson = some { envelope with payload } := by
  have eventType : Coded.ofJson? (Coded.toJson envelope.eventType) = some envelope.eventType := by
    cases envelope.eventType <;> rfl
  simp [ofJson?, toJson, Json.field?, Json.get?, Json.members, Json.string?, eventType,
    Json.unsigned?_ofNat version, Instant.ofJson?_toJson within, read]

namespace OrderSubmitted

theorem ofJson?_toJson {body : OrderSubmitted} (within : body.createdAt.inRange = true) :
    ofJson? body.toJson = some { body with
      quantity := body.quantity.readBack
      limitPrice := body.limitPrice.map (·.readBack) } := by
  have side : Coded.ofJson? (Coded.toJson body.side) = some body.side := by
    cases body.side <;> rfl
  have orderType : Coded.ofJson? (Coded.toJson body.orderType) = some body.orderType := by
    cases body.orderType <;> rfl
  have price : Json.optional? Decimal.ofJson? (Json.ofOption Decimal.toJson body.limitPrice) =
      some (body.limitPrice.map (·.readBack)) := by
    cases body.limitPrice with
    | none => rfl
    | some price => exact congrArg (Option.map some) (Decimal.ofJson?_toJson price)
  simp [ofJson?, toJson, Json.field?, Json.optionalField?, Json.get?, Json.members, Json.string?,
    side, orderType, price, Decimal.ofJson?_toJson, Instant.ofJson?_toJson within]

end OrderSubmitted

/-- The message that announces a submitted order names the order, at any time that the calendar
has. -/
theorem OutboxRow.Announces.announcedOrder? {row : OutboxRow} {terms : Terms} {order : Order}
    {number : Nat} {now : Instant}
    (announces : row.Announces terms (OrderSubmitted.ofOrder order) number now)
    (occurred : now.inRange = true) (created : order.createdAt.inRange = true) :
    Setup.announcedOrder? row.payload = some order.id := by
  obtain ⟨-, -, -, -, -, -, -, payload⟩ := announces.cases
  have body : (EventPayload.ofJson? (EventPayload.toJson (OrderSubmitted.ofOrder order)) :
      Option OrderSubmitted) = some _ := OrderSubmitted.ofJson?_toJson created
  have version : (EventPayload.schema OrderSubmitted).version < wordSize 32 := by decide
  rw [payload, Setup.announcedOrder?, EventEnvelope.ofJson?_toJson occurred version body]
  rfl

end SpotSettlement
