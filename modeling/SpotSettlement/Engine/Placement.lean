import SpotSettlement.Engine.Basic
import SpotSettlement.Retry.Backoff

namespace SpotSettlement.Setup

/-! # Placing and cancelling orders

A user's order passes the risk gate before it is created.  A cancellation goes to the exchange first
if the exchange knows the order, and is made here when the exchange has agreed or does not know the
order after all.
-/

inductive RiskDecision where
  | approved
  | rejected (code details : String)
  deriving DecidableEq, Repr, Inhabited

/-- What is written to the audit log when an order is placed. -/
def placedLine (order : Order) (now : Instant) : AuditLine where
  action := "ORDER_PLACED"
  account := order.account
  orderId := some order.id
  details := .object [("instrument", .string order.instrument),
    ("side", Coded.toJson order.side), ("order_type", Coded.toJson order.orderType),
    ("quantity", order.quantity.toJson),
    ("limit_price", Json.ofOption Decimal.toJson order.limitPrice),
    ("exchange_name", .string order.exchange)]
  moment := now

def placeOrder (setup : Setup) (command : OrderCommand) (risk : RiskDecision) (now : Instant) :
    Activity (Except SettlementError Order) := do
  match command.validate with
  | .error cause => return .error (.order cause)
  | .ok () =>
    match risk with
    | .rejected code details => return .error (.riskRejected code details)
    | .approved =>
      let created ← Engine.perform (setup.terms.createOrder command now)
      match created with
      | .error _ => pure ()
      | .ok order => modify fun engine => { engine with
          audit := engine.audit ++ [placedLine order now] }
      return created

/-- Asks the exchange under the retry policy. -/
def ask {α : Type} (setup : Setup) (call : ExchangeCall) (fits : ExchangeAnswer → Option α) :
    Activity (Except ExchangeError α) :=
  setup.retry.execute Engine.wait (Engine.ask call fits)

/-- Refuses to cancel an order of another account, or one that is terminal. -/
def checkCancelable (order : Order) (account : String) : Except OrderError Unit :=
  if order.account ≠ account then .error (.accountMismatch order.id)
  else if order.status.isTerminal then .error (.alreadyTerminal order.id order.status)
  else .ok ()

/-- Cancels an order at the exchange, if the exchange knows it.  An order that the exchange turns
out not to know needs no cancelling there. -/
def cancelRemotely (setup : Setup) (order : Order) : Activity (Except SettlementError Unit) :=
  match order.exchangeOrderId with
  | none => return .ok ()
  | some _ => do
    match ← setup.ask (.cancelOrder (.ofOrder order)) ExchangeAnswer.order? with
    | .ok _ => return .ok ()
    | .error (.notFound _) => return .ok ()
    | .error error => return .error (.exchange error)

def cancelOrder (setup : Setup) (orderId account : String) (reason : Option String)
    (now : Instant) : Activity (Except SettlementError Order) := do
  match ← Engine.perform (Terms.findOrder orderId) with
  | .error cause => return .error cause
  | .ok order =>
    match checkCancelable order account with
    | .error cause => return .error (.order cause)
    | .ok () =>
      match ← setup.cancelRemotely order with
      | .error cause => return .error cause
      | .ok () => Engine.perform (setup.terms.cancelOrder orderId account reason now)

end SpotSettlement.Setup
