import SpotSettlement.Exchange.Error
import SpotSettlement.Execution.Report
import SpotSettlement.Json.Basic
import SpotSettlement.Order.Basic

namespace SpotSettlement

/-! # Talking to an exchange

What an exchange is asked, and what it answers: orders as it sees them, and trades of the account.
-/

structure PlaceOrderRequest where
  clientOrderId : String
  instrument : String
  side : Side
  orderType : OrderType
  quantity : Decimal
  limitPrice : Option Decimal
  deriving DecidableEq, Inhabited

def PlaceOrderRequest.ofOrder (order : Order) : PlaceOrderRequest where
  clientOrderId := order.outboundClientOrderId
  instrument := order.instrument
  side := order.side
  orderType := order.orderType
  quantity := order.quantity
  limitPrice := order.limitPrice

def PlaceOrderRequest.toJson (request : PlaceOrderRequest) : Json := .object [
  ("client_order_id", .string request.clientOrderId), ("instrument", .string request.instrument),
  ("side", Coded.toJson request.side), ("order_type", Coded.toJson request.orderType),
  ("quantity", request.quantity.toJson),
  ("limit_price", Json.ofOption Decimal.toJson request.limitPrice)]

/-- How an order is named to the exchange. -/
structure OrderLookup where
  instrument : String
  exchangeOrderId : Option String
  clientOrderId : Option String
  deriving DecidableEq, Repr, Inhabited

def OrderLookup.ofOrder (order : Order) : OrderLookup where
  instrument := order.instrument
  exchangeOrderId := order.exchangeOrderId
  clientOrderId := some (order.exchangeClientOrderId.getD order.outboundClientOrderId)

def OrderLookup.toJson (lookup : OrderLookup) : Json := .object [
  ("instrument", .string lookup.instrument),
  ("exchange_order_id", Json.ofOption .string lookup.exchangeOrderId),
  ("client_order_id", Json.ofOption .string lookup.clientOrderId)]

structure ExchangeOrder where
  exchangeOrderId : String
  clientOrderId : Option String
  instrument : String
  side : Side
  /-- The type, if it is one we know. -/
  orderType : Option OrderType
  quantity : Decimal
  executed : Decimal
  price : Option Decimal
  rawStatus : String
  /-- The status, if it is one we know. -/
  status : Option OrderStatus
  updatedAt : Instant
  deriving DecidableEq, Inhabited

structure ExchangeTrade where
  tradeId : String
  exchangeOrderId : String
  instrument : String
  side : Side
  quantity : Decimal
  price : Decimal
  feeAsset : Option String
  fee : Decimal
  executedAt : Instant
  deriving DecidableEq, Inhabited

def ExchangeTrade.toReport (trade : ExchangeTrade) (exchange : String) : ExecutionReport where
  exchange := exchange
  instrument := trade.instrument
  tradeId := trade.tradeId
  exchangeOrderId := some trade.exchangeOrderId
  clientOrderId := none
  side := trade.side
  quantity := trade.quantity
  price := trade.price
  feeAsset := trade.feeAsset
  fee := trade.fee
  reportedStatus := none
  executedAt := trade.executedAt

/-- A question to the exchange. -/
inductive ExchangeCall where
  | placeOrder (request : PlaceOrderRequest)
  | cancelOrder (lookup : OrderLookup)
  | queryOrder (lookup : OrderLookup)
  | openOrders
  | recentTrades (instrument : String) (since : Instant)
  deriving DecidableEq

inductive ExchangeAnswer where
  | failure (error : ExchangeError)
  | order (order : ExchangeOrder)
  | orders (orders : List ExchangeOrder)
  | trades (trades : List ExchangeTrade)
  deriving Inhabited

namespace ExchangeAnswer

def order? : ExchangeAnswer → Option ExchangeOrder
  | .order found => some found
  | _ => none

def orders? : ExchangeAnswer → Option (List ExchangeOrder)
  | .orders found => some found
  | _ => none

def trades? : ExchangeAnswer → Option (List ExchangeTrade)
  | .trades found => some found
  | _ => none

end ExchangeAnswer

/-- The talk with an exchange: what it is going to answer, and what it has been asked. -/
structure ExchangeTalk where
  answers : List ExchangeAnswer := []
  calls : List ExchangeCall := []
  /-- What it counts as when the exchange has no answer, or one that does not fit. -/
  silence : ExchangeError := .transport "no answer"
  deriving Inhabited

/-- Asks a question and takes the next answer, if it fits the question. -/
def ExchangeTalk.ask {α : Type} (talk : ExchangeTalk) (call : ExchangeCall)
    (fits : ExchangeAnswer → Option α) : Except ExchangeError α × ExchangeTalk :=
  let asked := { talk with answers := talk.answers.drop 1, calls := talk.calls ++ [call] }
  match talk.answers.head? with
  | some (.failure error) => (.error error, asked)
  | some answer =>
    match fits answer with
    | some value => (.ok value, asked)
    | none => (.error talk.silence, asked)
  | none => (.error talk.silence, asked)

end SpotSettlement
