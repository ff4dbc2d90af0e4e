import SpotSettlement.Settlement.Announcement
import SpotSettlement.Settlement.Funds
import SpotSettlement.Store.Orders

namespace SpotSettlement.Terms

/-! # The lifecycle of an order

Each operation is one unit of work: it changes the order and the funds it holds, adds to the audit
trail, and announces what changed.
-/

open Coded Json

/-- Creates an order and reserves its funds. -/
def createOrder (terms : Terms) (command : OrderCommand) (now : Instant) : Work Order := do
  let id ← Store.mintOrder
  let order ← Order.create id command now
  match terms.catalog.assetPair order.instrument with
  | none => refuse (SettlementError.unknownInstrument order.instrument)
  | some pair =>
    Work.start
    Store.insertOrder order
    let reserved ← Funds.reserveFor order pair now
    recordEvent order .created none .new
      (.object [("instrument", .string order.instrument), ("side", Coded.toJson order.side),
        ("order_type", Coded.toJson order.orderType), ("quantity", order.quantity.toJson),
        ("limit_price", ofOption Decimal.toJson order.limitPrice)]) now
    terms.announce (OrderSubmitted.ofOrder order) now
    terms.announceBalances reserved.toList "ORDER_RESERVED" order.id now
    return order

/-- Records the exchange's acknowledgement of an order; none if it was recorded before. -/
def acknowledgeOrder (terms : Terms) (orderId exchange exchangeOrderId : String)
    (exchangeClientOrderId : Option String) (now : Instant) : Work (Option Transition) := do
  Work.start
  let order ← Store.existingOrder orderId
  let (transition, order) ←
    order.acknowledge exchange exchangeOrderId exchangeClientOrderId now
  match transition with
  | none => return none
  | some transition =>
    Store.updateOrder order
    terms.recordTransition order .acknowledged transition
      (.object [("exchange_name", .string exchange),
        ("exchange_order_id", .string exchangeOrderId),
        ("exchange_client_order_id", ofOption .string exchangeClientOrderId)]) none
    return some transition

/-- Writes a closed order, gives back its funds, and records and announces the change. -/
def closeOrder (terms : Terms) (order : Order) (transition : Transition)
    (reservationStatus : ReservationStatus) (eventType : OrderEventType) (reason : Option String)
    (balanceReason : String) (now : Instant) : Work Unit := do
  Store.updateOrder order
  let released ← Funds.releaseFor order.id reservationStatus now
  terms.recordTransition order eventType transition
    (.object [("reason", ofOption .string reason)]) reason
  terms.announceBalances released.toList balanceReason order.id now

/-- Cancels an order for the account that owns it. -/
def cancelOrder (terms : Terms) (orderId account : String) (reason : Option String)
    (now : Instant) : Work Order := do
  Work.start
  let order ← Store.existingOrder orderId
  let (transition, order) ← order.cancel account now
  terms.closeOrder order transition .released .canceled reason "ORDER_CANCELED" now
  return order

/-- Rejects an order that the exchange has refused. -/
def rejectOrder (terms : Terms) (orderId reason : String) (now : Instant) : Work Order := do
  Work.start
  let order ← Store.existingOrder orderId
  let (transition, order) ← order.reject now
  terms.closeOrder order transition .cancelled .rejected (some reason) "ORDER_REJECTED" now
  return order

def findOrder (orderId : String) : Work Order := do
  Work.start
  Store.existingOrder orderId

/-- The orders that an exchange has not acknowledged yet, the oldest first. -/
def awaitingAcknowledgement (exchange : String) : Work (List Order) := do
  Work.start
  return (← get).ordersByStatus exchange .new

end SpotSettlement.Terms
