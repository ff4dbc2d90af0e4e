import SpotSettlement.Execution.Report
import SpotSettlement.Decimal.Arithmetic

namespace SpotSettlement

/-! # Executions

An execution is a fill that counts: it belongs to an order and an account of ours.  The exchange may
tell of the same fill more than once; a key of exchange, instrument and trade says which are the
same.
-/

/-- A fill that has been applied to an order. -/
structure Execution where
  id : String
  orderId : String
  account : String
  instrument : String
  tradeId : String
  exchange : String
  exchangeOrderId : Option String
  side : Side
  quantity : Decimal
  price : Decimal
  feeAsset : Option String
  fee : Decimal
  executedAt : Instant
  deriving DecidableEq, Inhabited

namespace Execution

def ofReport (id : String) (report : ExecutionReport) (orderId account : String) : Execution where
  id := id
  orderId := orderId
  account := account
  instrument := report.instrument
  tradeId := report.tradeId
  exchange := report.exchange
  exchangeOrderId := report.exchangeOrderId
  side := report.side
  quantity := report.quantity
  price := report.price
  feeAsset := report.feeAsset
  fee := report.fee
  executedAt := report.executedAt

/-- The value of the fill in the quote asset. -/
def notional (execution : Execution) : Except Decimal.Overflow Decimal :=
  execution.quantity.mul execution.price

/-- What tells one fill from another: exchange, instrument and trade. -/
def key (execution : Execution) : String × String × String :=
  (execution.exchange, execution.instrument, execution.tradeId)

end Execution

inductive IngestOutcome where
  /-- It was applied: its execution, the order, and the status of the order after it. -/
  | inserted (executionId orderId : String) (status : OrderStatus)
  /-- It had been applied before. -/
  | duplicate
  /-- No order of ours matches it. -/
  | unmapped
  deriving DecidableEq, Repr, Inhabited

def IngestOutcome.label : IngestOutcome → String
  | .inserted .. => "inserted"
  | .duplicate => "duplicate"
  | .unmapped => "unmapped"

inductive ReconcileOutcome where
  /-- The order moved to the status. -/
  | applied (status : OrderStatus)
  /-- There was nothing to change. -/
  | unchanged
  /-- No order of ours matches the report. -/
  | unmapped
  deriving DecidableEq, Repr, Inhabited

end SpotSettlement
