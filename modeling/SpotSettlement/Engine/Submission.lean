import SpotSettlement.Engine.Placement

namespace SpotSettlement.Setup

/-! # Submitting orders to the exchange

A new order is placed at the exchange.  When the exchange refuses it, it is asked whether it holds
the order already, from an earlier attempt whose answer was lost; only if it does not is the order
rejected.  A worker does this for every announced order, and keeps what failed pending.
-/

inductive SubmissionOutcome where
  /-- The exchange has the order. -/
  | acknowledged (exchangeOrderId : String)
  /-- The exchange refuses the order. -/
  | rejected (reason : String)
  /-- The order was submitted before. -/
  | skipped (status : OrderStatus)
  deriving DecidableEq, Repr, Inhabited

/-- Records that the exchange has the order. -/
def acknowledgeRemote (setup : Setup) (order : Order) (remote : ExchangeOrder) (now : Instant) :
    Activity (Except SettlementError SubmissionOutcome) := do
  let recorded ← Engine.perform (setup.terms.acknowledgeOrder order.id order.exchange
    remote.exchangeOrderId remote.clientOrderId now)
  return recorded.map fun _ => .acknowledged remote.exchangeOrderId

/-- Looks for the order at the exchange by the client id it was sent with. -/
def findRemote (setup : Setup) (order : Order) :
    Activity (Except ExchangeError (Option ExchangeOrder)) := do
  let lookup : OrderLookup := ⟨order.instrument, none, some order.outboundClientOrderId⟩
  match ← setup.ask (.queryOrder lookup) ExchangeAnswer.order? with
  | .ok remote => return .ok (some remote)
  | .error (.notFound _) => return .ok none
  | .error error => return .error error

/-- The reason that is recorded for a refusal of the exchange. -/
def refusalText (code : Option Int) (details : String) : String :=
  match code with
  | some code => toString code ++ ": " ++ details
  | none => details

/-- Deals with the exchange's refusal of an order. -/
def settleRefusal (setup : Setup) (order : Order) (code : Option Int) (details : String)
    (now : Instant) : Activity (Except SettlementError SubmissionOutcome) := do
  match ← setup.findRemote order with
  | .error error => return .error (.exchange error)
  | .ok (some remote) => setup.acknowledgeRemote order remote now
  | .ok none =>
    let reason := refusalText code details
    let rejected ← Engine.perform (setup.terms.rejectOrder order.id reason now)
    return rejected.map fun _ => .rejected reason

def submitOrder (setup : Setup) (orderId : String) (now : Instant) :
    Activity (Except SettlementError SubmissionOutcome) := do
  match ← Engine.perform (Terms.findOrder orderId) with
  | .error cause => return .error cause
  | .ok order =>
    if order.status ≠ .new then
      return .ok (.skipped order.status)
    match ← setup.ask (.placeOrder (.ofOrder order)) ExchangeAnswer.order? with
    | .ok remote => setup.acknowledgeRemote order remote now
    | .error (.rejected code details) => setup.settleRefusal order code details now
    | .error error => return .error (.exchange error)

structure WorkerSetup where
  topic : String
  group : String
  batch : Nat := 16
  block : Duration := .ofSeconds 2
  failurePause : Duration := .ofSeconds 1
  deriving Inhabited

/-- What came of the messages of one pass. -/
structure SubmissionReport where
  received : Nat := 0
  acknowledged : Nat := 0
  rejected : Nat := 0
  skipped : Nat := 0
  malformed : Nat := 0
  failed : Nat := 0
  deriving DecidableEq, Repr, Inhabited

def SubmissionReport.count (report : SubmissionReport) : SubmissionOutcome → SubmissionReport
  | .acknowledged _ => { report with acknowledged := report.acknowledged + 1 }
  | .rejected _ => { report with rejected := report.rejected + 1 }
  | .skipped _ => { report with skipped := report.skipped + 1 }

/-- The order that a message announces, if it is such an announcement in the version we know. -/
def announcedOrder? (payload : Json) : Option String :=
  match (EventEnvelope.ofJson? payload : Option (EventEnvelope OrderSubmitted)) with
  | some envelope =>
    if envelope.version = OrderSubmitted.schema.version then some envelope.payload.orderId
    else none
  | none => none

def acknowledgeMessage (worker : WorkerSetup) (message : Message) : Activity Unit :=
  modify fun engine => { engine with
    broker := (engine.broker.acknowledge worker.topic worker.group (toString message.id)).2 }

/-- Deals with one message.  One that announces no order is dropped; one whose submission fails
stays pending. -/
def handleMessage (setup : Setup) (worker : WorkerSetup) (now : Instant)
    (report : SubmissionReport) (message : Message) : Activity SubmissionReport := do
  match announcedOrder? message.payload with
  | none =>
    acknowledgeMessage worker message
    return { report with malformed := report.malformed + 1 }
  | some orderId =>
    match ← setup.submitOrder orderId now with
    | .ok outcome =>
      acknowledgeMessage worker message
      return report.count outcome
    | .error _ => return { report with failed := report.failed + 1 }

/-- One pass of a worker over the messages that the broker has for it. -/
def submitBatch (setup : Setup) (worker : WorkerSetup) (now : Instant) :
    Activity SubmissionReport := do
  let engine ← get
  let (messages, waited, broker) :=
    engine.broker.receive worker.topic worker.group worker.batch worker.block none
  set { engine with broker }
  Engine.wait waited
  messages.foldlM (setup.handleMessage worker now) { received := messages.length }

end SpotSettlement.Setup
