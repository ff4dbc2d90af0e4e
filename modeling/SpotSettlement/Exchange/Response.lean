import SpotSettlement.Exchange.Fault
import SpotSettlement.Exchange.Order
import SpotSettlement.Json.Excerpt
import SpotSettlement.Json.Number
import SpotSettlement.Json.Basic
import SpotSettlement.Text.Blank

namespace SpotSettlement

/-! # Answers of an exchange

An answer is a status, a body, and a hint how long to wait.  The body of a success is the JSON of
orders, trades or a key; the body of anything else may hold a code and a message.
-/

inductive Reply where
  /-- Nothing: the network failed. -/
  | lost (details : String)
  /-- An answer. -/
  | answered (status : Nat) (retryAfter : Option String) (body : String)
  deriving DecidableEq, Repr, Inhabited

namespace Reply

/-- The wait that the hint of an answer names: a count of seconds of at most 64 bits, between
blanks and tabs. -/
def hint? (retryAfter : String) : Option Duration :=
  let bare (characters : List Char) := characters.dropWhile fun c => c == ' ' || c == '\t'
  let digits := match (bare (bare retryAfter.toList).reverse).reverse with
    | '+' :: rest => rest
    | characters => characters
  if digits.isEmpty ∨ ¬ digits.all Char.isDigit then none
  else
    let seconds := Text.digitsValue digits
    if seconds < wordSize 64 then some (.ofSeconds seconds) else none

/-- The code and the message in the body of an answer that is no success.  A body of another form is
the message itself. -/
def refusal (body : String) : Option Int × String :=
  let names := ["code", "msg"]
  let read : Option (Int × String) := do
    let value ← (← Json.entire? (Json.excerpt? names) body).record? names
    if names.any value.repeats then none
    return (← value.field? "code" Json.int64?, ← value.field? "msg" Json.string?)
  match read with
  | some (code, details) => (some code, details)
  | none => (none, body)

def busyStatuses : List Nat := [418, 429]

/-- The text of an answer.  An empty body counts as `null`. -/
def text : Reply → Except ExchangeFault String
  | .lost details => .error (.network details)
  | .answered status retryAfter body =>
    if 200 ≤ status ∧ status < 300 then .ok (if Text.isBlank body then "null" else body)
    else
      let (code, details) := refusal body
      if busyStatuses.contains status then
        .error (.rateLimited status (retryAfter.bind hint?) details)
      else .error (.refused status code details)

/-- Reads the text of an answer, which must have the shape that was asked for. -/
def read {α : Type} (reply : Reply) (read? : String → Option α) : Except ExchangeFault α := do
  match read? (← reply.text) with
  | some found => return found
  | none => throw (.unreadable "body has another shape")

/-- Accepts an answer that holds any JSON. -/
def accept (reply : Reply) : Except ExchangeFault Unit :=
  reply.read fun text => (Json.parse? text).bind fun value => if value.finite then some () else none

end Reply

namespace ExchangeOrder

/-- The members of an order that an answer holds. -/
structure Body where
  symbol : String
  orderId : Int
  clientOrderId : String
  /-- The client id of an order that was canceled by another request. -/
  placedClientOrderId : Option String
  price : Option Decimal
  quantity : Decimal
  executed : Decimal
  status : String
  orderType : String
  side : String
  transactedAt : Option Int
  updatedAt : Option Int
  deriving Inhabited

def Body.names : List String :=
  ["symbol", "orderId", "clientOrderId", "origClientOrderId", "price", "origQty", "executedQty",
    "status", "type", "side", "transactTime", "updateTime"]

/-- Reads the members of an order.  One that is written as a record may end before its times. -/
def Body.ofJson? (value : Json) : Option Body := do
  let value ← [0, 1, 2].findSome? fun missing =>
    value.record? (names.take (names.length - missing))
  if names.any value.repeats then none
  let price ← match value.get? "price" with
    | some price => (Decimal.ofJson? price).map some
    | none => some none
  return {
    symbol := ← value.field? "symbol" Json.string?
    orderId := ← value.field? "orderId" Json.int64?
    clientOrderId := ← value.field? "clientOrderId" Json.string?
    placedClientOrderId := ← value.optionalField? "origClientOrderId" Json.string?
    price
    quantity := ← value.field? "origQty" Decimal.ofJson?
    executed := ← value.field? "executedQty" Decimal.ofJson?
    status := ← value.field? "status" Json.string?
    orderType := ← value.field? "type" Json.string?
    side := ← value.field? "side" Json.string?
    transactedAt := ← value.optionalField? "transactTime" Json.int64?
    updatedAt := ← value.optionalField? "updateTime" Json.int64? }

/-- The order of a body.  One without a time counts as updated now. -/
def Body.toOrder (body : Body) (now : Instant) : Except ExchangeFault ExchangeOrder :=
  match Side.ofExchange? body.side with
  | none => .error (.unreadable ("unknown side " ++ body.side))
  | some side => .ok {
      exchangeOrderId := toString body.orderId
      clientOrderId := some (body.placedClientOrderId.getD body.clientOrderId)
      instrument := body.symbol
      side
      orderType := Coded.ofCode? body.orderType
      quantity := body.quantity
      executed := body.executed
      price := body.price.filter (!·.isZero)
      rawStatus := body.status
      status := OrderStatus.ofExchange? body.status
      updatedAt := ((body.updatedAt.or body.transactedAt).bind Instant.ofMillis?).getD now }

end ExchangeOrder

namespace ExchangeTrade

def names : List String :=
  ["symbol", "id", "orderId", "price", "qty", "commission", "commissionAsset", "time", "isBuyer"]

/-- Reads a trade that has no time yet, and the milliseconds of its time. -/
def ofJson? (value : Json) : Option (ExchangeTrade × Int) := do
  let value ← value.record? names
  if names.any value.repeats then none
  let bought ← value.field? "isBuyer" Json.bool?
  let feeAsset ← value.optionalField? "commissionAsset" Json.string?
  let trade : ExchangeTrade := {
    tradeId := toString (← value.field? "id" Json.int64?)
    exchangeOrderId := toString (← value.field? "orderId" Json.int64?)
    instrument := ← value.field? "symbol" Json.string?
    side := if bought then .buy else .sell
    quantity := ← value.field? "qty" Decimal.ofJson?
    price := ← value.field? "price" Decimal.ofJson?
    feeAsset := feeAsset.filter (!·.isEmpty)
    fee := ← value.field? "commission" Decimal.ofJson?
    executedAt := .ofMillis 0 }
  return (trade, ← value.field? "time" Json.int64?)

def withTime (trade : ExchangeTrade) (millis : Int) : Except ExchangeFault ExchangeTrade :=
  match Instant.ofMillis? millis with
  | some executedAt => .ok { trade with executedAt }
  | none => .error (.unreadable ("bad trade time " ++ toString millis))

end ExchangeTrade

namespace Reply

def order (reply : Reply) (now : Instant) : Except ExchangeFault ExchangeOrder := do
  let body ← reply.read fun text =>
    (Json.entire? (Json.excerpt? ExchangeOrder.Body.names) text).bind ExchangeOrder.Body.ofJson?
  body.toOrder now

def orders (reply : Reply) (now : Instant) : Except ExchangeFault (List ExchangeOrder) := do
  let bodies ← reply.read fun text => do
    (← Json.entire? (Json.excerpts? ExchangeOrder.Body.names) text).mapM ExchangeOrder.Body.ofJson?
  bodies.mapM (·.toOrder now)

def trades (reply : Reply) : Except ExchangeFault (List ExchangeTrade) := do
  let found ← reply.read fun text => do
    (← Json.entire? (Json.excerpts? ExchangeTrade.names) text).mapM ExchangeTrade.ofJson?
  found.mapM fun (trade, millis) => trade.withTime millis

/-- Reads an answer that holds the key of a stream. -/
def listenKey (reply : Reply) : Except ExchangeFault String :=
  reply.read fun text => do
    let names := ["listenKey"]
    let value ← (← Json.entire? (Json.excerpt? names) text).record? names
    if names.any value.repeats then none
    value.field? "listenKey" Json.string?

end Reply

end SpotSettlement
