import SpotSettlement.Order.Command
import SpotSettlement.Time.Instant

namespace SpotSettlement

/-! # Reports of an exchange

An execution report tells of one fill, a status report of a change of status without one.  Neither
is tied to an order of ours yet; both carry the identifiers by which the order can be found.
-/

/-- A fill as the exchange tells of it. -/
structure ExecutionReport where
  exchange : String
  instrument : String
  /-- Unique for an exchange and an instrument. -/
  tradeId : String
  exchangeOrderId : Option String
  clientOrderId : Option String
  side : Side
  quantity : Decimal
  price : Decimal
  feeAsset : Option String
  fee : Decimal
  /-- The status of the order that came along with the fill. -/
  reportedStatus : Option OrderStatus
  executedAt : Instant
  deriving DecidableEq, Inhabited

/-- A status of an order as the exchange tells of it. -/
structure StatusReport where
  exchange : String
  instrument : String
  exchangeOrderId : Option String
  clientOrderId : Option String
  status : OrderStatus
  reason : Option String
  reportedAt : Instant
  deriving DecidableEq, Inhabited

/-- Refuses a report that cannot be applied, for the first field that is wrong. -/
def ExecutionReport.validate (report : ExecutionReport) : Except OrderError Unit := do
  requireText "exchange_name" report.exchange
  requireText "instrument" report.instrument
  requireText "trade_id" report.tradeId
  if report.exchangeOrderId.isNone ∧ report.clientOrderId.isNone then
    throw (.invalidParameter "exchange_order_id"
      "report carries neither exchange nor client order id")
  requirePositive "quantity" report.quantity
  requirePositive "price" report.price
  if report.fee.isNegative then
    throw (.invalidParameter "fee_amount" "must not be negative")
  if report.fee.isPositive ∧ report.feeAsset.isNone then
    throw (.invalidParameter "fee_asset" "required when a fee is charged")

end SpotSettlement
