import SpotSettlement.Exchange.Fault
import SpotSettlement.Exchange.Order
import SpotSettlement.Execution.Report
import SpotSettlement.Failure
import SpotSettlement.InstrumentCatalog
import SpotSettlement.Order.Basic
import SpotSettlement.Outbox.Schedule
import SpotSettlement.Retry.Backoff
import SpotSettlement.Script.Fields
import SpotSettlement.Wallet.Reservation

namespace SpotSettlement

/-! # Values of a script

How orders, reports, errors and policies are written in a script.  What is absent takes a plain
default.
-/

def OrderCommand.ofScript (entry : Json) : OrderCommand where
  orderId := entry.textAt? "id"
  account := entry.textAt "account"
  instrument := entry.textAt "instrument"
  side := entry.codedAt "side" .buy
  orderType := entry.codedAt "type" .market
  quantity := entry.decimalAt "quantity"
  limitPrice := entry.decimalAt? "limit_price"
  clientOrderId := entry.textAt? "client_order_id"
  exchange := entry.textAt "exchange"

def Order.ofScript (now : Instant) (entry : Json) : Order where
  id := entry.textAt "id"
  account := entry.textAt "account"
  instrument := entry.textAt "instrument"
  side := entry.codedAt "side" .buy
  orderType := entry.codedAt "type" .market
  quantity := entry.decimalAt "quantity"
  limitPrice := entry.decimalAt? "limit_price"
  status := entry.codedAt "status" .new
  filled := entry.decimalAt "filled"
  clientOrderId := entry.textAt? "client_order_id"
  exchange := entry.textAt "exchange"
  exchangeOrderId := entry.textAt? "xid"
  exchangeClientOrderId := entry.textAt? "xcid"
  createdAt := entry.momentAt "created" now
  updatedAt := entry.momentAt "updated" now

def ExecutionReport.ofScript (now : Instant) (entry : Json) : ExecutionReport where
  exchange := entry.textAt "exchange"
  instrument := entry.textAt "instrument"
  tradeId := entry.textAt "trade_id"
  exchangeOrderId := entry.textAt? "xid"
  clientOrderId := entry.textAt? "cid"
  side := entry.codedAt "side" .buy
  quantity := entry.decimalAt "quantity"
  price := entry.decimalAt "price"
  feeAsset := entry.textAt? "fee_asset"
  fee := entry.decimalAt "fee"
  reportedStatus := entry.codedAt? "status"
  executedAt := entry.momentAt "at" now

def StatusReport.ofScript (now : Instant) (entry : Json) : StatusReport where
  exchange := entry.textAt "exchange"
  instrument := entry.textAt "instrument"
  exchangeOrderId := entry.textAt? "xid"
  clientOrderId := entry.textAt? "cid"
  status := entry.codedAt "status" .new
  reason := entry.textAt? "reason"
  reportedAt := entry.momentAt "at" now

def WalletReservation.ofScript (now : Instant) (entry : Json) : WalletReservation where
  id := entry.textAt "id"
  account := entry.textAt "account"
  asset := entry.textAt "asset"
  amount := entry.decimalAt "amount"
  orderId := entry.textAt "order"
  status := entry.codedAt "status" .active
  createdAt := now
  updatedAt := now

/-- An error of the exchange: one of its own, or a fault of the connection to it. -/
def ExchangeError.ofScript (entry : Json) : ExchangeError :=
  let details := entry.textAt "message"
  let code := entry.intAt? "code"
  let status := entry.natAt "status" 0
  let retryAfter := entry.durationAt? "retry_after_ms"
  match entry.textAt "kind" with
  | "rate_limited" => .rateLimited retryAfter details
  | "rejected" => .rejected code details
  | "not_found" => .notFound details
  | "authentication" => .authentication details
  | "transport" => .transport details
  | "decode" => .decode details
  | "api" => .api status code details
  | "binance_missing_credentials" => ExchangeFault.missingCredentials.toError
  | "binance_signature" => (ExchangeFault.signature details).toError
  | "binance_url" => (ExchangeFault.address details).toError
  | "binance_http" => (ExchangeFault.network details).toError
  | "binance_json" => (ExchangeFault.unreadable details).toError
  | "binance_rate_limited" => (ExchangeFault.rateLimited status retryAfter details).toError
  | _ => (ExchangeFault.refused status code details).toError

def SettlementError.ofScript (entry : Json) : SettlementError :=
  let id := entry.textAt "id"
  let asset := entry.textAt "asset"
  let amount := entry.decimalAt "amount"
  let details := entry.textAt "message"
  let before := entry.codedAt "from" OrderStatus.new
  match entry.textAt "kind" with
  | "order_not_found" => .order (.notFound id)
  | "order_transition" => .order (.invalidTransition before (entry.codedAt? "to") details)
  | "order_invalid" => .order (.invalidParameter (entry.textAt "field") details)
  | "order_account" => .order (.accountMismatch id)
  | "order_terminal" => .order (.alreadyTerminal id before)
  | "order_stale" => .order (.staleAcknowledgement id before)
  | "order_ambiguous" =>
    .order (.ambiguousAcknowledgement id (entry.textAt "recorded") (entry.textAt "received"))
  | "ledger_unbalanced" => .ledger (.unbalanced id asset amount)
  | "ledger_amount" => .ledger (.nonPositiveAmount amount)
  | "ledger_empty" => .ledger (.noEntries id)
  | "wallet_insufficient" =>
    .wallet (.insufficientBalance id asset amount (entry.decimalAt "available"))
  | "wallet_shortfall" => .wallet (.shortfall id asset amount)
  | "wallet_mismatch" => .wallet (.reservedMismatch id asset amount)
  | "wallet_inactive" => .wallet (.reservationInactive id details)
  | "outbox_invalid" =>
    .outbox (.invalidPayload (entry.codedAt "event_type" .orderSubmitted)
      (entry.natAt "version" 0) details)
  | "repository_storage" => .store (.storage details)
  | "repository_corrupt" => .store (.corruptRow "orders" details)
  | "repository_not_found" => .store (.notFound "order" id)
  | "repository_serialization" => .store (.serialization details)
  | "broker_connection" => .broker (.connection details)
  | "broker_command" => .broker (.command details)
  | "broker_malformed" => .broker (.malformed details)
  | "risk" => .riskRejected (entry.textAt "code") details
  | "unknown_instrument" => .unknownInstrument id
  | "unknown_connector" => .unknownConnector id
  | _ => .replayNotFound id

/-- How calls are retried.  A script draws nothing at random unless it says so. -/
def RetryPolicy.ofScript (entry : Json) : RetryPolicy :=
  let usual : RetryPolicy := {}
  { maxRetries := entry.natAt "max_retries" usual.maxRetries
    initialBackoff := entry.durationAt "initial_ms" usual.initialBackoff
    maxBackoff := entry.durationAt "max_ms" usual.maxBackoff
    multiplier := entry.floatAt "multiplier" usual.multiplier
    jitter := entry.floatAt "jitter" 0.0 }

def RetrySchedule.ofScript (entry : Json) : RetrySchedule :=
  let usual : RetrySchedule := {}
  { baseBackoff := entry.durationAt "base_ms" usual.baseBackoff
    maxBackoff := entry.durationAt "max_ms" usual.maxBackoff
    maxAttempts := entry.natAt "max_attempts" usual.maxAttempts }

/-- An instrument, written as its symbol alone or in full. -/
def InstrumentDefinition.ofScript : Json → InstrumentDefinition
  | .string symbol => { symbol }
  | entry => {
      symbol := entry.textAt "symbol"
      base := entry.textAt? "base"
      quote := entry.textAt? "quote"
      active := ((entry.valueAt "active").bool?).getD true }

def InstrumentCatalog.ofScript (entry : Json) : InstrumentCatalog :=
  .ofDefinitions ((entry.listAt "instruments").map .ofScript) (entry.textsAt "quotes")

def ExchangeOrder.ofScript (now : Instant) (entry : Json) : ExchangeOrder where
  exchangeOrderId := entry.textAt "xid"
  clientOrderId := entry.textAt? "cid"
  instrument := (entry.textAt? "instrument").getD "BTCUSDT"
  side := entry.codedAt "side" .buy
  orderType := entry.codedAt? "type"
  quantity := entry.decimalAt "quantity"
  executed := entry.decimalAt "executed"
  price := entry.decimalAt? "price"
  rawStatus := "NEW"
  status := some .acknowledged
  updatedAt := now

def ExchangeTrade.ofScript (now : Instant) (entry : Json) : ExchangeTrade where
  tradeId := entry.textAt "trade_id"
  exchangeOrderId := entry.textAt "xid"
  instrument := (entry.textAt? "instrument").getD "BTCUSDT"
  side := entry.codedAt "side" .buy
  quantity := entry.decimalAt "quantity"
  price := entry.decimalAt "price"
  feeAsset := entry.textAt? "fee_asset"
  fee := entry.decimalAt "fee"
  executedAt := entry.momentAt "at" now

def ExchangeAnswer.ofScript (now : Instant) (entry : Json) : ExchangeAnswer :=
  if entry.hasAt "error" then .failure (.ofScript (entry.valueAt "error"))
  else if entry.hasAt "order" then .order (.ofScript now (entry.valueAt "order"))
  else if entry.hasAt "orders" then .orders ((entry.listAt "orders").map (.ofScript now))
  else .trades ((entry.listAt "trades").map (.ofScript now))

def ExchangeCall.ofScript (now : Instant) (entry : Json) : ExchangeCall :=
  let lookup : OrderLookup :=
    ⟨entry.textAt "instrument", entry.textAt? "xid", entry.textAt? "cid"⟩
  match entry.textAt "call" with
  | "place" => .placeOrder {
      clientOrderId := entry.textAt "cid"
      instrument := entry.textAt "instrument"
      side := entry.codedAt "side" .buy
      orderType := entry.codedAt "type" .market
      quantity := entry.decimalAt "quantity"
      limitPrice := entry.decimalAt? "limit_price" }
  | "cancel" => .cancelOrder lookup
  | "query" => .queryOrder lookup
  | "open_orders" => .openOrders
  | _ => .recentTrades (entry.textAt "instrument") (entry.momentAt "since" now)

end SpotSettlement
