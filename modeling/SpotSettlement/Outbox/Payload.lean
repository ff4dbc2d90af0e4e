import SpotSettlement.Execution.Basic
import SpotSettlement.Json.Basic
import SpotSettlement.Order.Basic
import SpotSettlement.Outbox.Vocabulary
import SpotSettlement.Time.Calendar
import SpotSettlement.Wallet.Balance

namespace SpotSettlement

/-! # Event payloads

Each family of events has a body with a schema and a version.  A body knows what it announces and
under which key its events are ordered, refuses content that its schema forbids, and has one JSON
form, from which it can be read back.
-/

/-- The family, version and subject of a type of bodies. -/
structure EventSchema where
  eventType : EventType
  version : Nat
  aggregateType : AggregateType
  deriving DecidableEq, Repr, Inhabited

namespace EventSchema

/-- Refuses a body for a failed check. -/
def invalid {α : Type} (schema : EventSchema) (problem : String) : Except Failure α :=
  refuse (OutboxError.invalidPayload schema.eventType schema.version problem)

/-- Refuses a body unless a check holds. -/
def require (schema : EventSchema) (holds : Bool) (problem : String) : Except Failure Unit :=
  if holds then .ok () else schema.invalid problem

def requireText (schema : EventSchema) (field text : String) : Except Failure Unit :=
  schema.require (!Text.isBlank text) (field ++ " must not be empty")

def requireNonNegative (schema : EventSchema) (field : String) (value : Decimal) :
    Except Failure Unit :=
  schema.require (!value.isNegative) (field ++ " must not be negative")

def topic (schema : EventSchema) (namePrefix : String) : String :=
  schema.eventType.topic namePrefix schema.version

end EventSchema

class EventPayload (P : Type) where
  schema : EventSchema
  /-- The thing that the event announces a change of. -/
  aggregateId : P → String
  /-- The key under which events are correlated and kept in order. -/
  naturalKey : P → String
  /-- Refuses content that the schema forbids, for the first check that fails. -/
  validate : P → Except Failure Unit
  toJson : P → Json
  ofJson? : Json → Option P

/-- A new order waits to be submitted to its exchange. -/
structure OrderSubmitted where
  orderId : String
  account : String
  instrument : String
  side : Side
  orderType : OrderType
  quantity : Decimal
  limitPrice : Option Decimal
  clientOrderId : String
  exchange : String
  createdAt : Instant
  deriving DecidableEq, Inhabited

namespace OrderSubmitted

def ofOrder (order : Order) : OrderSubmitted where
  orderId := order.id
  account := order.account
  instrument := order.instrument
  side := order.side
  orderType := order.orderType
  quantity := order.quantity
  limitPrice := order.limitPrice
  clientOrderId := order.outboundClientOrderId
  exchange := order.exchange
  createdAt := order.createdAt

def schema : EventSchema := ⟨.orderSubmitted, 1, .order⟩

def names : List String := [
    "order_id", "account_id", "instrument", "side", "order_type", "quantity", "limit_price",
    "client_order_id", "exchange_name", "created_at"]

def toJson (body : OrderSubmitted) : Json := .object [
    ("order_id", .string body.orderId), ("account_id", .string body.account),
    ("instrument", .string body.instrument), ("side", Coded.toJson body.side),
    ("order_type", Coded.toJson body.orderType), ("quantity", body.quantity.toJson),
    ("limit_price", Json.ofOption Decimal.toJson body.limitPrice),
    ("client_order_id", .string body.clientOrderId), ("exchange_name", .string body.exchange),
    ("created_at", body.createdAt.toJson)]

def ofJson? (value : Json) : Option OrderSubmitted := do
  let value ← value.record? names
  let orderId ← value.field? "order_id" Json.string?
  let account ← value.field? "account_id" Json.string?
  let instrument ← value.field? "instrument" Json.string?
  let side ← value.field? "side" Coded.ofJson?
  let orderType ← value.field? "order_type" Coded.ofJson?
  let quantity ← value.field? "quantity" Decimal.ofJson?
  let limitPrice ← value.optionalField? "limit_price" Decimal.ofJson?
  let clientOrderId ← value.field? "client_order_id" Json.string?
  let exchange ← value.field? "exchange_name" Json.string?
  let createdAt ← value.field? "created_at" Instant.ofJson?
  return {
    orderId, account, instrument, side, orderType, quantity, limitPrice, clientOrderId,
    exchange, createdAt }

def validate (body : OrderSubmitted) : Except Failure Unit := do
  schema.requireText "order_id" body.orderId
  schema.requireText "instrument" body.instrument
  schema.requireText "exchange_name" body.exchange
  schema.require body.quantity.isPositive "quantity must be positive"
  schema.require (body.orderType.requiresLimitPrice == body.limitPrice.isSome)
    "limit_price must be present iff LIMIT"

instance : EventPayload OrderSubmitted where
  schema := schema
  aggregateId body := body.orderId
  naturalKey body := body.orderId
  validate := validate
  toJson := toJson
  ofJson? := ofJson?

end OrderSubmitted

/-- The status and the filled quantity of an order have changed. -/
structure OrderProgress where
  orderId : String
  account : String
  status : OrderStatus
  filled : Decimal
  updatedAt : Instant
  deriving DecidableEq, Inhabited

namespace OrderProgress

def ofOrder (order : Order) : OrderProgress where
  orderId := order.id
  account := order.account
  status := order.status
  filled := order.filled
  updatedAt := order.updatedAt

def schema : EventSchema := ⟨.orderUpdated, 1, .order⟩

def names : List String := [
    "order_id", "account_id", "status", "filled_quantity", "updated_at"]

def toJson (body : OrderProgress) : Json := .object [
    ("order_id", .string body.orderId), ("account_id", .string body.account),
    ("status", Coded.toJson body.status), ("filled_quantity", body.filled.toJson),
    ("updated_at", body.updatedAt.toJson)]

def ofJson? (value : Json) : Option OrderProgress := do
  let value ← value.record? names
  let orderId ← value.field? "order_id" Json.string?
  let account ← value.field? "account_id" Json.string?
  let status ← value.field? "status" Coded.ofJson?
  let filled ← value.field? "filled_quantity" Decimal.ofJson?
  let updatedAt ← value.field? "updated_at" Instant.ofJson?
  return {
    orderId, account, status, filled, updatedAt }

def validate (body : OrderProgress) : Except Failure Unit := do
  schema.requireText "order_id" body.orderId
  schema.requireNonNegative "filled_quantity" body.filled

instance : EventPayload OrderProgress where
  schema := schema
  aggregateId body := body.orderId
  naturalKey body := body.orderId
  validate := validate
  toJson := toJson
  ofJson? := ofJson?

end OrderProgress

/-- An order has changed, with its status before, its quantities, its identity at the exchange and
the reason. -/
structure OrderChange where
  orderId : String
  account : String
  instrument : String
  previousStatus : OrderStatus
  status : OrderStatus
  quantity : Decimal
  filled : Decimal
  remaining : Decimal
  exchange : String
  exchangeOrderId : Option String
  reason : Option String
  updatedAt : Instant
  deriving DecidableEq, Inhabited

namespace OrderChange

def ofOrder (order : Order) (previousStatus : OrderStatus) (reason : Option String) :
    Except Decimal.Overflow OrderChange := do
  let remaining ← order.remaining
  return {
    orderId := order.id
    account := order.account
    instrument := order.instrument
    previousStatus
    status := order.status
    quantity := order.quantity
    filled := order.filled
    remaining
    exchange := order.exchange
    exchangeOrderId := order.exchangeOrderId
    reason
    updatedAt := order.updatedAt }

def schema : EventSchema := ⟨.orderUpdated, 2, .order⟩

def names : List String := [
    "order_id", "account_id", "instrument", "previous_status", "status", "quantity",
    "filled_quantity", "remaining_quantity", "exchange_name", "exchange_order_id", "reason",
    "updated_at"]

def toJson (body : OrderChange) : Json := .object [
    ("order_id", .string body.orderId), ("account_id", .string body.account),
    ("instrument", .string body.instrument),
    ("previous_status", Coded.toJson body.previousStatus), ("status", Coded.toJson body.status),
    ("quantity", body.quantity.toJson), ("filled_quantity", body.filled.toJson),
    ("remaining_quantity", body.remaining.toJson), ("exchange_name", .string body.exchange),
    ("exchange_order_id", Json.ofOption .string body.exchangeOrderId),
    ("reason", Json.ofOption .string body.reason), ("updated_at", body.updatedAt.toJson)]

def ofJson? (value : Json) : Option OrderChange := do
  let value ← value.record? names
  let orderId ← value.field? "order_id" Json.string?
  let account ← value.field? "account_id" Json.string?
  let instrument ← value.field? "instrument" Json.string?
  let previousStatus ← value.field? "previous_status" Coded.ofJson?
  let status ← value.field? "status" Coded.ofJson?
  let quantity ← value.field? "quantity" Decimal.ofJson?
  let filled ← value.field? "filled_quantity" Decimal.ofJson?
  let remaining ← value.field? "remaining_quantity" Decimal.ofJson?
  let exchange ← value.field? "exchange_name" Json.string?
  let exchangeOrderId ← value.optionalField? "exchange_order_id" Json.string?
  let reason ← value.optionalField? "reason" Json.string?
  let updatedAt ← value.field? "updated_at" Instant.ofJson?
  return {
    orderId, account, instrument, previousStatus, status, quantity, filled, remaining,
    exchange, exchangeOrderId, reason, updatedAt }

def validate (body : OrderChange) : Except Failure Unit := do
  schema.requireText "order_id" body.orderId
  schema.requireNonNegative "filled_quantity" body.filled
  schema.requireNonNegative "remaining_quantity" body.remaining
  let sum ← body.filled.add body.remaining
  schema.require (sum == body.quantity) "filled + remaining must equal quantity"

instance : EventPayload OrderChange where
  schema := schema
  aggregateId body := body.orderId
  naturalKey body := body.orderId
  validate := validate
  toJson := toJson
  ofJson? := ofJson?

end OrderChange

/-- A fill has been applied. -/
structure ExecutionRecorded where
  executionId : String
  orderId : String
  account : String
  instrument : String
  exchange : String
  tradeId : String
  side : Side
  quantity : Decimal
  price : Decimal
  feeAsset : Option String
  fee : Decimal
  executedAt : Instant
  deriving DecidableEq, Inhabited

namespace ExecutionRecorded

def ofExecution (execution : Execution) : ExecutionRecorded where
  executionId := execution.id
  orderId := execution.orderId
  account := execution.account
  instrument := execution.instrument
  exchange := execution.exchange
  tradeId := execution.tradeId
  side := execution.side
  quantity := execution.quantity
  price := execution.price
  feeAsset := execution.feeAsset
  fee := execution.fee
  executedAt := execution.executedAt

def schema : EventSchema := ⟨.executionRecorded, 1, .execution⟩

def names : List String := [
    "execution_id", "order_id", "account_id", "instrument", "exchange_name", "trade_id", "side",
    "quantity", "price", "fee_asset", "fee_amount", "executed_at"]

def toJson (body : ExecutionRecorded) : Json := .object [
    ("execution_id", .string body.executionId), ("order_id", .string body.orderId),
    ("account_id", .string body.account), ("instrument", .string body.instrument),
    ("exchange_name", .string body.exchange), ("trade_id", .string body.tradeId),
    ("side", Coded.toJson body.side), ("quantity", body.quantity.toJson),
    ("price", body.price.toJson), ("fee_asset", Json.ofOption .string body.feeAsset),
    ("fee_amount", body.fee.toJson), ("executed_at", body.executedAt.toJson)]

def ofJson? (value : Json) : Option ExecutionRecorded := do
  let value ← value.record? names
  let executionId ← value.field? "execution_id" Json.string?
  let orderId ← value.field? "order_id" Json.string?
  let account ← value.field? "account_id" Json.string?
  let instrument ← value.field? "instrument" Json.string?
  let exchange ← value.field? "exchange_name" Json.string?
  let tradeId ← value.field? "trade_id" Json.string?
  let side ← value.field? "side" Coded.ofJson?
  let quantity ← value.field? "quantity" Decimal.ofJson?
  let price ← value.field? "price" Decimal.ofJson?
  let feeAsset ← value.optionalField? "fee_asset" Json.string?
  let fee ← value.field? "fee_amount" Decimal.ofJson?
  let executedAt ← value.field? "executed_at" Instant.ofJson?
  return {
    executionId, orderId, account, instrument, exchange, tradeId, side, quantity, price,
    feeAsset, fee, executedAt }

def validate (body : ExecutionRecorded) : Except Failure Unit := do
  schema.requireText "order_id" body.orderId
  schema.requireText "trade_id" body.tradeId
  schema.require (body.quantity.isPositive && body.price.isPositive)
    "quantity and price must be positive"
  schema.requireNonNegative "fee_amount" body.fee

instance : EventPayload ExecutionRecorded where
  schema := schema
  aggregateId body := body.executionId
  naturalKey body := body.orderId
  validate := validate
  toJson := toJson
  ofJson? := ofJson?

end ExecutionRecorded

/-- A balance has changed, for a stated reason. -/
structure BalanceUpdated where
  account : String
  asset : String
  available : Decimal
  reserved : Decimal
  reason : String
  orderId : Option String
  updatedAt : Instant
  deriving DecidableEq, Inhabited

namespace BalanceUpdated

def ofBalance (balance : WalletBalance) (reason : String) (orderId : Option String) :
    BalanceUpdated where
  account := balance.account
  asset := balance.asset
  available := balance.available
  reserved := balance.reserved
  reason
  orderId
  updatedAt := balance.updatedAt

def schema : EventSchema := ⟨.balanceUpdated, 1, .walletBalance⟩

def names : List String := [
    "account_id", "asset", "available", "reserved", "reason", "order_id", "updated_at"]

def toJson (body : BalanceUpdated) : Json := .object [
    ("account_id", .string body.account), ("asset", .string body.asset),
    ("available", body.available.toJson), ("reserved", body.reserved.toJson),
    ("reason", .string body.reason), ("order_id", Json.ofOption .string body.orderId),
    ("updated_at", body.updatedAt.toJson)]

def ofJson? (value : Json) : Option BalanceUpdated := do
  let value ← value.record? names
  let account ← value.field? "account_id" Json.string?
  let asset ← value.field? "asset" Json.string?
  let available ← value.field? "available" Decimal.ofJson?
  let reserved ← value.field? "reserved" Decimal.ofJson?
  let reason ← value.field? "reason" Json.string?
  let orderId ← value.optionalField? "order_id" Json.string?
  let updatedAt ← value.field? "updated_at" Instant.ofJson?
  return {
    account, asset, available, reserved, reason, orderId, updatedAt }

def validate (body : BalanceUpdated) : Except Failure Unit := do
  schema.requireText "account_id" body.account
  schema.requireText "asset" body.asset
  schema.requireNonNegative "available" body.available
  schema.requireNonNegative "reserved" body.reserved

instance : EventPayload BalanceUpdated where
  schema := schema
  aggregateId body := body.account ++ ":" ++ body.asset
  naturalKey body := body.account
  validate := validate
  toJson := toJson
  ofJson? := ofJson?

end BalanceUpdated

end SpotSettlement
