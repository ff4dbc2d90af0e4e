import SpotSettlement.AssetPair
import SpotSettlement.Failure
import SpotSettlement.Json.Basic
import SpotSettlement.Order.Command
import SpotSettlement.Order.Transition
import SpotSettlement.Time.Instant

namespace SpotSettlement

/-! # Orders

An order is created from a command, acknowledged by its exchange, filled, and closed.  Every change
keeps the status in step with the filled quantity, and a refused change leaves the order as it was.
-/

structure Order where
  id : String
  account : String
  instrument : String
  side : Side
  orderType : OrderType
  quantity : Decimal
  limitPrice : Option Decimal
  status : OrderStatus
  filled : Decimal
  clientOrderId : Option String
  exchange : String
  exchangeOrderId : Option String
  exchangeClientOrderId : Option String
  createdAt : Instant
  updatedAt : Instant
  deriving DecidableEq, Inhabited

structure Transition where
  before : OrderStatus
  after : OrderStatus
  deriving DecidableEq, Repr, Inhabited

structure FillTransition where
  transition : Transition
  priorFilled : Decimal
  newFilled : Decimal
  deriving DecidableEq, Inhabited

namespace Order

/-- A new order.  `freshId` is its identifier if the command has none. -/
def create (freshId : String) (command : OrderCommand) (now : Instant) :
    Except OrderError Order := do
  command.validate
  return {
    id := command.orderId.getD freshId
    account := command.account
    instrument := AssetPair.canonical command.instrument
    side := command.side
    orderType := command.orderType
    quantity := command.quantity
    limitPrice := command.limitPrice
    status := .new
    filled := .zero
    clientOrderId := command.clientOrderId
    exchange := command.exchange
    exchangeOrderId := none
    exchangeClientOrderId := none
    createdAt := now
    updatedAt := now }

def remaining (order : Order) : Except Decimal.Overflow Decimal :=
  order.quantity.sub order.filled

/-- The client order id that the exchange is told: the caller's, else the order's own id, so that
reports can be mapped back. -/
def outboundClientOrderId (order : Order) : String := order.clientOrderId.getD order.id

/-- The asset and amount that the order holds in reserve.  A purchase with a limit reserves its
notional, a sale its quantity; the notional of a purchase at market is not known. -/
def reservationRequirement (order : Order) (pair : AssetPair) :
    Except Decimal.Overflow (Option (String × Decimal)) :=
  match order.side, order.limitPrice with
  | .buy, some price => do
    let notional ← order.quantity.mul price
    return some (pair.quote, notional)
  | .buy, none => .ok none
  | .sell, _ => .ok (some (pair.base, order.quantity))

/-- Records the exchange's acknowledgement.  The same acknowledgement once more changes nothing and
gives no transition. -/
def acknowledge (order : Order) (exchange exchangeOrderId : String)
    (exchangeClientOrderId : Option String) (now : Instant) :
    Except OrderError (Option Transition × Order) := do
  if Text.isBlank exchangeOrderId then
    throw (.invalidParameter "exchange_order_id" "must not be empty")
  if order.status = .acknowledged then
    if order.exchange = exchange ∧ order.exchangeOrderId = some exchangeOrderId ∧
        order.exchangeClientOrderId = exchangeClientOrderId then
      return (none, order)
    throw (.ambiguousAcknowledgement order.id (order.exchangeOrderId.getD "") exchangeOrderId)
  if order.status ≠ .new then
    throw (.staleAcknowledgement order.id order.status)
  return (some ⟨order.status, .acknowledged⟩,
    { order with
      exchange := exchange
      exchangeOrderId := some exchangeOrderId
      exchangeClientOrderId := exchangeClientOrderId
      status := .acknowledged
      updatedAt := now })

/-- Moves the order to a terminal status. -/
def close (order : Order) (status : OrderStatus) (now : Instant) :
    Except OrderError (Transition × Order) := do
  if order.status.isTerminal then
    throw (.alreadyTerminal order.id order.status)
  OrderStatus.checkTransition order.status status
  return (⟨order.status, status⟩, { order with status := status, updatedAt := now })

/-- Cancels the order for the account that owns it. -/
def cancel (order : Order) (account : String) (now : Instant) :
    Except OrderError (Transition × Order) := do
  if order.account ≠ account then
    throw (.accountMismatch order.id)
  order.close .canceled now

/-- Rejects the order, which the exchange has refused. -/
def reject (order : Order) (now : Instant) : Except OrderError (Transition × Order) :=
  order.close .rejected now

/-- Applies a fill.  The filled quantity goes no further than the quantity of the order. -/
def applyFill (order : Order) (quantity : Decimal) (reported : Option OrderStatus)
    (now : Instant) : Except Failure (FillTransition × Order) := do
  requirePositive "fill_quantity" quantity
  let sum ← order.filled.add quantity
  let newFilled := sum.min order.quantity
  let next ← order.status.next reported order.filled newFilled order.quantity
  return (⟨⟨order.status, next⟩, order.filled, newFilled⟩,
    { order with filled := newFilled, status := next, updatedAt := now })

/-- Applies a status reported without a fill; none if the order has that status. -/
def applyReportedStatus (order : Order) (reported : OrderStatus) (now : Instant) :
    Except OrderError (Option Transition × Order) := do
  if reported = order.status then
    return (none, order)
  let next ← order.status.next (some reported) order.filled order.filled order.quantity
  if next = order.status then
    return (none, order)
  return (some ⟨order.status, next⟩, { order with status := next, updatedAt := now })

/-- Whether two optional amounts are both absent or of one value. -/
def sameAmount : Option Decimal → Option Decimal → Bool
  | some a, some b => a == b
  | none, none => true
  | _, _ => false

/-- Whether two orders are the same: amounts are compared by value, all else as it is. -/
def same (a b : Order) : Bool :=
  a.quantity == b.quantity && a.filled == b.filled && sameAmount a.limitPrice b.limitPrice &&
    a == { b with quantity := a.quantity, filled := a.filled, limitPrice := a.limitPrice }

end Order

/-- One row of the audit trail of an order.  Every change of an order leaves one, which tells what it
was before and after, and rows are only ever appended. -/
structure OrderEvent where
  id : String
  orderId : String
  eventType : OrderEventType
  /-- The status before the change; none on creation. -/
  previousStatus : Option OrderStatus
  status : OrderStatus
  details : Json
  createdAt : Instant

end SpotSettlement
