import SpotSettlement.Broker.Error
import SpotSettlement.Decimal.Arithmetic
import SpotSettlement.Exchange.Error
import SpotSettlement.Ledger.Error
import SpotSettlement.Order.Error
import SpotSettlement.Outbox.Vocabulary
import SpotSettlement.Store.Error
import SpotSettlement.Wallet.Error

namespace SpotSettlement

/-! # Why an operation fails

An operation is refused for a cause that its caller is told: a reason code, an HTTP status and a
message.  Apart from that an arithmetic result may not fit a decimal; then the operation is
abandoned, which is a failure of another kind, since nothing downstream may treat it as a refusal.
-/

/-- The causes for which operations are refused. -/
inductive SettlementError where
  | order (cause : OrderError)
  | wallet (cause : WalletError)
  | ledger (cause : LedgerError)
  | outbox (cause : OutboxError)
  | store (cause : StoreError)
  | exchange (cause : ExchangeError)
  | broker (cause : BrokerError)
  /-- The risk gate refuses the command. -/
  | riskRejected (code details : String)
  /-- No base and quote asset can be told from the symbol. -/
  | unknownInstrument (symbol : String)
  /-- There is no such connector. -/
  | unknownConnector (name : String)
  /-- There is no such replay request. -/
  | replayNotFound (id : String)
  deriving DecidableEq

namespace SettlementError

def message : SettlementError → String
  | .order cause => cause.message
  | .wallet cause => cause.message
  | .ledger cause => cause.message
  | .outbox cause => cause.message
  | .store cause => cause.message
  | .exchange cause => cause.message
  | .broker cause => cause.message
  | .riskRejected code details => "risk check rejected order (" ++ code ++ "): " ++ details
  | .unknownInstrument symbol => "unknown instrument: " ++ symbol
  | .unknownConnector name => "unknown connector: " ++ name
  | .replayNotFound id => "replay request not found: " ++ id

/-- The stable reason code of a cause, and the HTTP status it is answered with. -/
def classify : SettlementError → String × Nat
  | .order (.invalidTransition ..) => ("INVALID_STATE_TRANSITION", 409)
  | .order (.invalidParameter ..) => ("INVALID_PARAMETERS", 400)
  | .order (.notFound ..) => ("ORDER_NOT_FOUND", 404)
  | .order (.accountMismatch ..) => ("ACCOUNT_MISMATCH", 403)
  | .order (.alreadyTerminal ..) => ("ORDER_TERMINAL", 409)
  | .order (.staleAcknowledgement ..) => ("STALE_ACKNOWLEDGEMENT", 409)
  | .order (.ambiguousAcknowledgement ..) => ("AMBIGUOUS_ACKNOWLEDGEMENT", 409)
  | .wallet (.insufficientBalance ..) => ("INSUFFICIENT_BALANCE", 422)
  | .wallet (.invalidAmount ..) => ("INVALID_PARAMETERS", 400)
  | .wallet _ => ("SETTLEMENT_INCONSISTENCY", 500)
  | .ledger _ => ("LEDGER_IMBALANCE", 500)
  | .outbox (.invalidPayload ..) => ("INVALID_EVENT_PAYLOAD", 400)
  | .outbox .undecodable => ("STORAGE_FAILURE", 500)
  | .store _ => ("STORAGE_FAILURE", 500)
  | .exchange (.rateLimited ..) => ("EXCHANGE_RATE_LIMITED", 429)
  | .exchange (.rejected ..) => ("EXCHANGE_REJECTED", 422)
  | .exchange (.notFound ..) => ("NOT_FOUND", 404)
  | .exchange _ => ("EXCHANGE_UNAVAILABLE", 503)
  | .broker _ => ("BROKER_UNAVAILABLE", 503)
  | .riskRejected .. => ("RISK_REJECTED", 422)
  | .unknownInstrument _ => ("UNKNOWN_INSTRUMENT", 400)
  | .unknownConnector _ => ("UNKNOWN_CONNECTOR", 400)
  | .replayNotFound _ => ("NOT_FOUND", 404)

/-- The stable reason code of a cause. -/
def reason (cause : SettlementError) : String := cause.classify.1

def httpStatus (cause : SettlementError) : Nat := cause.classify.2

end SettlementError

/-- How an operation ends without a result. -/
inductive Failure where
  /-- It is refused. -/
  | refused (cause : SettlementError)
  /-- It is abandoned, because a number does not fit. -/
  | overflow (operation : Decimal.Overflow)
  deriving DecidableEq

/-- The errors of one area are causes of failure. -/
class Cause (ε : Type) where
  toFailure : ε → Failure

instance : Cause OrderError := ⟨fun cause => .refused (.order cause)⟩
instance : Cause WalletError := ⟨fun cause => .refused (.wallet cause)⟩
instance : Cause LedgerError := ⟨fun cause => .refused (.ledger cause)⟩
instance : Cause OutboxError := ⟨fun cause => .refused (.outbox cause)⟩
instance : Cause StoreError := ⟨fun cause => .refused (.store cause)⟩
instance : Cause SettlementError := ⟨.refused⟩
instance : Cause Decimal.Overflow := ⟨.overflow⟩

/-- A computation that fails for a cause of one area, as one that may fail for any. -/
instance {ε : Type} [Cause ε] : MonadLiftT (Except ε) (Except Failure) where
  monadLift
    | .ok value => .ok value
    | .error cause => .error (Cause.toFailure cause)

/-- Refuses for a cause of one area. -/
def refuse {ε α : Type} [Cause ε] (cause : ε) : Except Failure α :=
  .error (Cause.toFailure cause)

end SpotSettlement
