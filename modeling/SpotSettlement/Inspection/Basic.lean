import SpotSettlement.Code
import SpotSettlement.Failure
import SpotSettlement.Time.Instant

namespace SpotSettlement

/-! # Inspection

A value that is inspected shows all that it holds as JSON.  Moments and durations are whole
milliseconds, decimals keep their scale, and what is absent is `null`.  A computation shows its
value under `ok`, or the cause of its failure.
-/

class Inspect (α : Type) where
  /-- All that the value holds. -/
  inspect : α → Json

export Inspect (inspect)

instance : Inspect Json := ⟨id⟩
instance : Inspect Unit := ⟨fun _ => .null⟩
instance : Inspect Bool := ⟨.bool⟩
instance : Inspect Nat := ⟨.ofNat⟩
instance : Inspect String := ⟨.string⟩
instance : Inspect Decimal := ⟨Decimal.toJson⟩
instance : Inspect Instant := ⟨fun moment => .ofInt moment.toMillis⟩
instance : Inspect Duration := ⟨fun span => .ofNat span.toMillis⟩
instance (priority := low) {α : Type} [Coded α] : Inspect α := ⟨Coded.toJson⟩
instance {α : Type} [Inspect α] : Inspect (Option α) := ⟨Json.ofOption inspect⟩
instance {α : Type} [Inspect α] : Inspect (List α) := ⟨fun items => .array (items.map inspect)⟩

/-- A number that does not fit. -/
instance : Inspect Decimal.Overflow :=
  ⟨fun operation => .object [("error", inspect "Panic"), ("message", inspect operation.message)]⟩

/-- A cause, with its code, its status and its wording.  A payload that cannot be read has no
wording of its own. -/
instance : Inspect SettlementError where
  inspect cause :=
    let wording := match cause with
      | .outbox .undecodable => []
      | _ => [("message", inspect cause.message)]
    .object ([("error", inspect cause.reason), ("http", inspect cause.httpStatus)] ++ wording)

instance : Inspect OrderError := ⟨fun cause => inspect (SettlementError.order cause)⟩
instance : Inspect OutboxError := ⟨fun cause => inspect (SettlementError.outbox cause)⟩
instance : Inspect BrokerError := ⟨fun cause => inspect (SettlementError.broker cause)⟩

instance : Inspect Failure where
  inspect
    | .refused cause => inspect cause
    | .overflow operation => inspect operation

/-- An error of the exchange, with whether and how long it asks to wait. -/
instance : Inspect ExchangeError where
  inspect error := .object [
    ("error", inspect error.code), ("message", inspect error.message),
    ("rate_limited", inspect error.isRateLimited), ("retry_after_ms", inspect error.retryAfter)]

/-- A value that was come by. -/
def inspectSuccess (value : Json) : Json := .object [("ok", value)]

instance {ε α : Type} [Inspect ε] [Inspect α] : Inspect (Except ε α) where
  inspect
    | .ok value => inspectSuccess (inspect value)
    | .error cause => inspect cause

/-- A computed value that stands for itself, unless a number in it does not fit. -/
def inspectComputed {α : Type} [Inspect α] : Except Decimal.Overflow α → Json
  | .ok value => inspect value
  | .error operation => inspect operation

end SpotSettlement
