import SpotSettlement.Json.Number
import SpotSettlement.Json.Reader
import SpotSettlement.Stream.Event

namespace SpotSettlement.StreamCodec

/-! # Reading the frames of a stream

A frame is a JSON object whose member `e` names the kind of event; it may be wrapped in an object
under `event`.  Only reports of executions concern us: one of a trade is a fill, any other tells a
status, unless its word for the status is not known.
-/

/-- The body of an execution report, as far as it is used. -/
structure Frame where
  eventTime : Int
  symbol : String
  clientOrderId : String
  /-- The client id of an order that was canceled by another request. -/
  placedClientOrderId : Option String
  side : String
  executionType : String
  orderStatus : String
  rejectReason : Option String
  orderId : Int
  lastQuantity : Decimal
  lastPrice : Decimal
  commission : Option Decimal
  commissionAsset : Option String
  transactionTime : Int
  tradeId : Int
  deriving DecidableEq, Inhabited

/-- Reads the body of an execution report.  Members that are not used must be readable too. -/
def Frame.ofJson? (value : Json) : Option Frame := do
  let eventTime ← value.field? "E" Json.int64?
  let symbol ← value.field? "s" Json.string?
  let clientOrderId ← value.field? "c" Json.string?
  let placedClientOrderId ← value.optionalField? "C" Json.string?
  let side ← value.field? "S" Json.string?
  let _orderType ← value.field? "o" Json.string?
  let executionType ← value.field? "x" Json.string?
  let orderStatus ← value.field? "X" Json.string?
  let rejectReason ← value.optionalField? "r" Json.string?
  let orderId ← value.field? "i" Json.int64?
  let lastQuantity ← value.field? "l" Decimal.ofJson?
  let _cumulative ← value.field? "z" Decimal.ofJson?
  let lastPrice ← value.field? "L" Decimal.ofJson?
  let commission ← value.optionalField? "n" Decimal.ofJson?
  let commissionAsset ← value.optionalField? "N" Json.string?
  let transactionTime ← value.field? "T" Json.int64?
  let tradeId ← value.field? "t" Json.int64?
  return {
    eventTime, symbol, clientOrderId, placedClientOrderId, side, executionType, orderStatus
    rejectReason, orderId, lastQuantity, lastPrice, commission, commissionAsset
    transactionTime, tradeId }

/-- The client id of the order that the frame is about. -/
def Frame.orderClientId (frame : Frame) : String :=
  match frame.placedClientOrderId with
  | some placed => if placed.isEmpty then frame.clientOrderId else placed
  | none => frame.clientOrderId

def timestamp (millis : Int) : Except StreamError Instant :=
  match Instant.ofMillis? millis with
  | some moment => .ok moment
  | none => .error (.decode ("bad timestamp " ++ toString millis))

def Frame.toExecution (frame : Frame) (exchange : String) (side : Side) :
    Except StreamError StreamEvent := do
  let executedAt ← timestamp frame.transactionTime
  return .execution {
    exchange
    instrument := frame.symbol
    tradeId := toString frame.tradeId
    exchangeOrderId := some (toString frame.orderId)
    clientOrderId := some frame.orderClientId
    side
    quantity := frame.lastQuantity
    price := frame.lastPrice
    feeAsset := frame.commissionAsset.filter (!·.isEmpty)
    fee := frame.commission.getD .zero
    reportedStatus := OrderStatus.ofExchange? frame.orderStatus
    executedAt }

def Frame.toStatus (frame : Frame) (exchange : String) (status : OrderStatus) :
    Except StreamError StreamEvent := do
  let reportedAt ← timestamp frame.eventTime
  return .status {
    exchange
    instrument := frame.symbol
    exchangeOrderId := some (toString frame.orderId)
    clientOrderId := some frame.orderClientId
    status
    reason := frame.rejectReason.filter fun reason => !reason.isEmpty && reason != "NONE"
    reportedAt }

/-- The event of an execution report. -/
def Frame.toEvent (frame : Frame) (exchange : String) : Except StreamError StreamEvent :=
  match Side.ofExchange? frame.side with
  | none => .error (.decode ("unknown side " ++ frame.side))
  | some side =>
    if frame.executionType = "TRADE" then frame.toExecution exchange side
    else
      match OrderStatus.ofExchange? frame.orderStatus with
      | none => .ok .ignored
      | some status => frame.toStatus exchange status

/-- The object that holds the event: the one under `event`, if there is one there. -/
def unwrap (value : Json) : Json :=
  match value.get? "event" with
  | some inner => if inner.isObject then inner else value
  | none => value

/-- The event in a parsed frame. -/
def ofJson (exchange : String) (value : Json) : Except StreamError StreamEvent :=
  let body := unwrap value
  match body.get? "e" with
  | none => .ok .ignored
  | some (.string kind) =>
    if kind = "executionReport" then
      match Frame.ofJson? body with
      | some frame => frame.toEvent exchange
      | none => .error (.decode "execution report is incomplete")
    else if kind = "listenKeyExpired" then .error (.transport "listen key expired")
    else .ok .ignored
  | some _ => .error (.decode "event name is not a text")

/-- The event in the text of a frame. -/
def decode (exchange text : String) : Except StreamError StreamEvent :=
  match (Json.parse? text).filter Json.finite with
  | none => .error (.decode "frame is not JSON")
  | some value => ofJson exchange value

end SpotSettlement.StreamCodec
