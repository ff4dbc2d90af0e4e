import SpotSettlement.Exchange.Client
import SpotSettlement.Exchange.Order
import SpotSettlement.Inspection.Execution

namespace SpotSettlement

/-! # The exchange inspected

What is asked of the exchange, what is sent to it, and what it answers.
-/

instance : Inspect ExchangeCall where
  inspect
    | .placeOrder request => .array [inspect "place_order", request.toJson]
    | .cancelOrder lookup => .array [inspect "cancel_order", lookup.toJson]
    | .queryOrder lookup => .array [inspect "query_order", lookup.toJson]
    | .openOrders => .array [inspect "open_orders"]
    | .recentTrades instrument since =>
      .array [inspect "recent_trades", inspect instrument, inspect since]

/-- The word for a method on the wire. -/
def RequestMethod.word : RequestMethod → String
  | .get => "GET"
  | .post => "POST"
  | .put => "PUT"
  | .delete => "DELETE"

instance : Inspect ExchangeRequest where
  inspect request := .array [inspect request.method.word, inspect request.address,
    inspect request.query, inspect request.apiKey]

instance : Inspect ExchangeOrder where
  inspect order := .object [
    ("xid", inspect order.exchangeOrderId), ("cid", inspect order.clientOrderId),
    ("instrument", inspect order.instrument), ("side", inspect order.side),
    ("type", inspect order.orderType), ("quantity", inspect order.quantity),
    ("executed", inspect order.executed), ("price", inspect order.price),
    ("raw_status", inspect order.rawStatus), ("status", inspect order.status),
    ("updated", inspect order.updatedAt)]

/-- A trade, with the report of it that the named exchange makes. -/
def ExchangeTrade.inspectFrom (exchange : String) (trade : ExchangeTrade) : Json := .object [
  ("trade_id", inspect trade.tradeId), ("xid", inspect trade.exchangeOrderId),
  ("instrument", inspect trade.instrument), ("side", inspect trade.side),
  ("quantity", inspect trade.quantity), ("price", inspect trade.price),
  ("fee_asset", inspect trade.feeAsset), ("fee", inspect trade.fee),
  ("at", inspect trade.executedAt), ("report", inspect (trade.toReport exchange))]

end SpotSettlement
