import SpotSettlement.AssetPair
import SpotSettlement.Exchange.Order
import SpotSettlement.Inspection.Basic
import SpotSettlement.Order.Basic

namespace SpotSettlement

/-! # Orders inspected

An order shows what is left to fill beside what it holds, and together with a pair of assets also
what it reserves and how it is put to the exchange.
-/

instance : Inspect AssetPair where
  inspect pair := .object [
    ("base", inspect pair.base), ("quote", inspect pair.quote), ("text", inspect pair.text)]

instance : Inspect Transition where
  inspect transition := .object [
    ("from", inspect transition.before), ("to", inspect transition.after)]

instance : Inspect Order where
  inspect order := .object [
    ("id", inspect order.id), ("account", inspect order.account),
    ("instrument", inspect order.instrument), ("side", inspect order.side),
    ("type", inspect order.orderType), ("quantity", inspect order.quantity),
    ("limit_price", inspect order.limitPrice), ("status", inspect order.status),
    ("filled", inspect order.filled), ("remaining", inspectComputed order.remaining),
    ("client_order_id", inspect order.clientOrderId),
    ("outbound", inspect order.outboundClientOrderId), ("exchange", inspect order.exchange),
    ("xid", inspect order.exchangeOrderId), ("xcid", inspect order.exchangeClientOrderId),
    ("created", inspect order.createdAt), ("updated", inspect order.updatedAt)]

instance : Inspect OrderEvent where
  inspect event := .object [
    ("order", inspect event.orderId), ("type", inspect event.eventType),
    ("from", inspect event.previousStatus), ("to", inspect event.status),
    ("payload", event.details), ("created", inspect event.createdAt)]

/-- What an order reserves of an asset, if anything. -/
def Order.inspectRequirement (order : Order) (pair : AssetPair) : Json :=
  match order.reservationRequirement pair with
  | .ok (some (asset, amount)) => .array [inspect asset, inspect amount]
  | .ok none => .null
  | .error operation => inspect operation

/-- An order that trades the given assets. -/
def Order.inspectTrading (order : Order) (pair : AssetPair) : Json := .object [
  ("order", inspect order), ("reserve", order.inspectRequirement pair),
  ("place", (PlaceOrderRequest.ofOrder order).toJson),
  ("lookup", (OrderLookup.ofOrder order).toJson)]

end SpotSettlement
