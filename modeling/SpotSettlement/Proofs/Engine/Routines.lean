import SpotSettlement.Engine.Reconciliation
import SpotSettlement.Engine.Submission

namespace SpotSettlement

/-! # Activities deed by deed

An activity does one thing after another: units of work, questions to the exchange, waits.  Between
any two of them other activities may come in.  Here the activities that bring orders to the exchange
and take them back are routines, which tell what they do next and how they go on from its result.
The routine of an activity has its name, and is the activity if nothing comes between.
-/

/-- What an activity does in one go. -/
inductive Deed where
  | findOrder (orderId : String)
  | findAwaiting (exchange : String)
  | acknowledge (orderId exchange exchangeOrderId : String) (exchangeClientOrderId : Option String)
      (now : Instant)
  | cancel (orderId account : String) (reason : Option String) (now : Instant)
  | reject (orderId reason : String) (now : Instant)
  | ingest (report : ExecutionReport) (now : Instant)
  | recordHealth (change : ConnectorHealth → ConnectorHealth)
  | wait (delay : Duration)
  /-- Asks the exchange a question that it answers with an order. -/
  | askOrder (call : ExchangeCall)
  | askOpenOrders
  | askTrades (instrument : String) (since : Instant)

namespace Deed

@[reducible]
def Result : Deed → Type
  | findOrder _ | cancel .. | reject .. => Except SettlementError Order
  | findAwaiting _ => Except SettlementError (List Order)
  | acknowledge .. => Except SettlementError (Option Transition)
  | ingest .. => Except SettlementError IngestOutcome
  | recordHealth _ | wait _ => Unit
  | askOrder _ => Except ExchangeError ExchangeOrder
  | askOpenOrders => Except ExchangeError (List ExchangeOrder)
  | askTrades .. => Except ExchangeError (List ExchangeTrade)

def perform (setup : Setup) : (deed : Deed) → Activity deed.Result
  | findOrder orderId => Engine.perform (Terms.findOrder orderId)
  | findAwaiting exchange => Engine.perform (Terms.awaitingAcknowledgement exchange)
  | acknowledge orderId exchange exchangeOrderId exchangeClientOrderId now =>
    Engine.perform (setup.terms.acknowledgeOrder orderId exchange exchangeOrderId
      exchangeClientOrderId now)
  | cancel orderId account reason now =>
    Engine.perform (setup.terms.cancelOrder orderId account reason now)
  | reject orderId reason now => Engine.perform (setup.terms.rejectOrder orderId reason now)
  | ingest report now => Engine.perform (setup.terms.processFill report now)
  | recordHealth change => Engine.updateHealth change
  | wait delay => Engine.wait delay
  | askOrder call => Engine.ask call ExchangeAnswer.order?
  | askOpenOrders => Engine.ask .openOrders ExchangeAnswer.orders?
  | askTrades instrument since =>
    Engine.ask (.recentTrades instrument since) ExchangeAnswer.trades?

end Deed

/-- The rest of an activity: it is done, or it has a next deed and goes on from its result. -/
inductive Routine (α : Type) where
  | done (value : α)
  | next (deed : Deed) (rest : deed.Result → Routine α)

namespace Routine

variable {α β : Type}

def bind (f : α → Routine β) : Routine α → Routine β
  | done value => f value
  | next deed rest => .next deed fun result => (rest result).bind f

instance : Monad Routine where
  pure := done
  bind routine f := routine.bind f

/-- A routine of one deed. -/
def only (deed : Deed) : Routine deed.Result := .next deed .done

/-- Does a routine in one go. -/
def run (setup : Setup) : Routine α → Activity α
  | done value => pure value
  | next deed rest => deed.perform setup >>= fun result => (rest result).run setup

theorem run_bind (setup : Setup) (routine : Routine α) (f : α → Routine β) :
    (routine >>= f).run setup = routine.run setup >>= fun value => (f value).run setup := by
  change (routine.bind f).run setup = _
  induction routine with
  | done value => rw [bind, run, pure_bind]
  | next deed rest ih =>
      rw [bind, run, run, bind_assoc]
      congr 1
      funext result
      exact ih result

theorem run_bind_eq {setup : Setup} {routine : Routine α} {activity : Activity α}
    {f : α → Routine β} {g : α → Activity β} (first : routine.run setup = activity)
    (rest : ∀ value, (f value).run setup = g value) :
    (routine >>= f).run setup = activity >>= g := by
  rw [run_bind, first]
  exact congrArg _ (funext rest)

theorem run_only (setup : Setup) (deed : Deed) : (only deed).run setup = deed.perform setup :=
  bind_pure _

theorem run_ite (setup : Setup) {condition : Prop} [Decidable condition] (x y : Routine α) :
    (if condition then x else y).run setup = if condition then x.run setup else y.run setup := by
  split <;> rfl

theorem run_foldlM {γ : Type} (setup : Setup) (step : α → γ → Routine α) (items : List γ) (start : α) :
    (items.foldlM step start).run setup =
      items.foldlM (fun value item => (step value item).run setup) start := by
  induction items generalizing start with
  | nil => rfl
  | cons item rest ih =>
      rw [List.foldlM_cons, List.foldlM_cons]
      exact run_bind_eq rfl ih

theorem run_retrying (setup : Setup) (call : Routine (Except ExchangeError α)) (remaining : Nat)
    (backoff : Backoff) (first : Option ExchangeError) :
    (retrying (fun delay => only (.wait delay)) call remaining backoff first).run setup =
      retrying Engine.wait (call.run setup) remaining backoff first := by
  induction remaining using Nat.strongRecOn generalizing backoff first with
  | ind remaining ih =>
      unfold retrying
      refine run_bind_eq rfl fun answer => ?_
      cases answer with
      | ok value => rfl
      | error error =>
          dsimp only
          rw [run_ite]
          congr 1
          cases remaining with
          | zero => rfl
          | succ fewer =>
              dsimp only
              cases backoff.after error.retryAfter with
              | none => rfl
              | some next =>
                  exact run_bind_eq (run_only setup _) fun _ =>
                    ih fewer (Nat.lt_succ_self fewer) next.2 _

/-- Retrying a routine is retrying its activity. -/
theorem run_execute {setup : Setup} {call : Routine (Except ExchangeError α)}
    {activity : Activity (Except ExchangeError α)} (policy : RetryPolicy)
    (calls : call.run setup = activity) :
    (policy.execute (fun delay => only (.wait delay)) call).run setup =
      policy.execute Engine.wait activity := by
  subst calls
  exact run_retrying setup call _ _ _

end Routine

namespace Setup

open Routine

def askRoutine (setup : Setup) (call : ExchangeCall) : Routine (Except ExchangeError ExchangeOrder) :=
  setup.retry.execute (fun delay => only (.wait delay)) (only (.askOrder call))

theorem run_askRoutine (setup : Setup) (call : ExchangeCall) :
    (setup.askRoutine call).run setup = setup.ask call ExchangeAnswer.order? :=
  run_execute setup.retry (run_only ..)

def cancelRemotelyRoutine (setup : Setup) (order : Order) : Routine (Except SettlementError Unit) :=
  match order.exchangeOrderId with
  | none => return .ok ()
  | some _ => do
    match ← setup.askRoutine (.cancelOrder (.ofOrder order)) with
    | .ok _ => return .ok ()
    | .error (.notFound _) => return .ok ()
    | .error error => return .error (.exchange error)

theorem run_cancelRemotelyRoutine (setup : Setup) (order : Order) :
    (setup.cancelRemotelyRoutine order).run setup = setup.cancelRemotely order := by
  unfold cancelRemotelyRoutine cancelRemotely
  cases order.exchangeOrderId with
  | none => rfl
  | some number =>
      dsimp only
      refine run_bind_eq (run_askRoutine ..) fun answer => ?_
      cases answer with
      | ok => rfl
      | error error => cases error <;> rfl

def cancelRoutine (setup : Setup) (orderId account : String) (reason : Option String)
    (now : Instant) : Routine (Except SettlementError Order) := do
  match (← only (.findOrder orderId) : Except SettlementError Order) with
  | .error cause => return .error cause
  | .ok order =>
    match checkCancelable order account with
    | .error cause => return .error (.order cause)
    | .ok () =>
      match ← setup.cancelRemotelyRoutine order with
      | .error cause => return .error cause
      | .ok () => only (.cancel orderId account reason now)

/-- Cancelling an order is its routine, done in one go. -/
theorem run_cancelRoutine (setup : Setup) (orderId account : String) (reason : Option String)
    (now : Instant) : (setup.cancelRoutine orderId account reason now).run setup =
      setup.cancelOrder orderId account reason now := by
  unfold cancelRoutine cancelOrder
  refine run_bind_eq (run_only ..) fun found => ?_
  cases found with
  | error cause => rfl
  | ok order =>
      dsimp only
      cases checkCancelable order account with
      | error cause => rfl
      | ok =>
          dsimp only
          refine run_bind_eq (run_cancelRemotelyRoutine ..) fun answer => ?_
          cases answer with
          | error cause => rfl
          | ok => exact run_only setup _

def acknowledgeRemoteRoutine (order : Order) (remote : ExchangeOrder) (now : Instant) :
    Routine (Except SettlementError SubmissionOutcome) := do
  let recorded ← only (.acknowledge order.id order.exchange remote.exchangeOrderId
    remote.clientOrderId now)
  return recorded.map fun _ => .acknowledged remote.exchangeOrderId

def findRemoteRoutine (setup : Setup) (order : Order) :
    Routine (Except ExchangeError (Option ExchangeOrder)) := do
  let lookup : OrderLookup := ⟨order.instrument, none, some order.outboundClientOrderId⟩
  match ← setup.askRoutine (.queryOrder lookup) with
  | .ok remote => return .ok (some remote)
  | .error (.notFound _) => return .ok none
  | .error error => return .error error

theorem run_findRemoteRoutine (setup : Setup) (order : Order) :
    (setup.findRemoteRoutine order).run setup = setup.findRemote order := by
  unfold findRemoteRoutine findRemote
  refine run_bind_eq (run_askRoutine ..) fun answer => ?_
  cases answer with
  | ok => rfl
  | error error => cases error <;> rfl

def settleRefusalRoutine (setup : Setup) (order : Order) (code : Option Int) (details : String)
    (now : Instant) : Routine (Except SettlementError SubmissionOutcome) := do
  match ← setup.findRemoteRoutine order with
  | .error error => return .error (.exchange error)
  | .ok (some remote) => acknowledgeRemoteRoutine order remote now
  | .ok none =>
    let reason := refusalText code details
    let rejected ← only (.reject order.id reason now)
    return rejected.map fun _ => .rejected reason

theorem run_settleRefusalRoutine (setup : Setup) (order : Order) (code : Option Int)
    (details : String) (now : Instant) :
    (setup.settleRefusalRoutine order code details now).run setup =
      setup.settleRefusal order code details now := by
  unfold settleRefusalRoutine settleRefusal
  refine run_bind_eq (run_findRemoteRoutine ..) fun found => ?_
  cases found with
  | error => rfl
  | ok remote => cases remote <;> rfl

def submitRoutine (setup : Setup) (orderId : String) (now : Instant) :
    Routine (Except SettlementError SubmissionOutcome) := do
  match (← only (.findOrder orderId) : Except SettlementError Order) with
  | .error cause => return .error cause
  | .ok order =>
    if order.status ≠ .new then
      return .ok (.skipped order.status)
    match ← setup.askRoutine (.placeOrder (.ofOrder order)) with
    | .ok remote => acknowledgeRemoteRoutine order remote now
    | .error (.rejected code details) => setup.settleRefusalRoutine order code details now
    | .error error => return .error (.exchange error)

/-- Submitting an order is its routine, done in one go. -/
theorem run_submitRoutine (setup : Setup) (orderId : String) (now : Instant) :
    (setup.submitRoutine orderId now).run setup = setup.submitOrder orderId now := by
  unfold submitRoutine submitOrder
  refine run_bind_eq (run_only ..) fun found => ?_
  cases found with
  | error cause => rfl
  | ok order =>
      dsimp only
      rw [run_ite]
      congr 1
      refine run_bind_eq (run_askRoutine ..) fun answer => ?_
      cases answer with
      | ok remote => rfl
      | error error =>
          cases error with
          | rejected code details => exact setup.run_settleRefusalRoutine order code details now
          | _ => rfl

def acknowledgeOpenOrderRoutine (setup : Setup) (openOrders : List ExchangeOrder) (now : Instant)
    (count : Nat) (order : Order) : Routine Nat :=
  match openOrderOf? openOrders order.outboundClientOrderId with
  | none => return count
  | some remote => do
    match (← only (.acknowledge order.id setup.exchange remote.exchangeOrderId
        remote.clientOrderId now) : Except SettlementError (Option Transition)) with
    | .ok (some _) => return count + 1
    | .ok none | .error _ => return count

theorem run_acknowledgeOpenOrderRoutine (setup : Setup) (openOrders : List ExchangeOrder)
    (now : Instant) (count : Nat) (order : Order) :
    (setup.acknowledgeOpenOrderRoutine openOrders now count order).run setup =
      setup.acknowledgeOpenOrder openOrders now count order := by
  unfold acknowledgeOpenOrderRoutine acknowledgeOpenOrder
  cases openOrderOf? openOrders order.outboundClientOrderId with
  | none => rfl
  | some remote =>
      dsimp only
      refine run_bind_eq (run_only ..) fun answer => ?_
      cases answer with
      | ok transition => cases transition <;> rfl
      | error => rfl

def acknowledgeOpenRoutine (setup : Setup) (openOrders : List ExchangeOrder) (now : Instant) :
    Routine Nat := do
  if openOrders.all (·.clientOrderId.isNone) then
    return 0
  match (← only (.findAwaiting setup.exchange) : Except SettlementError (List Order)) with
  | .error _ => return 0
  | .ok waiting => waiting.foldlM (setup.acknowledgeOpenOrderRoutine openOrders now) 0

theorem run_acknowledgeOpenRoutine (setup : Setup) (openOrders : List ExchangeOrder)
    (now : Instant) : (setup.acknowledgeOpenRoutine openOrders now).run setup =
      setup.acknowledgeOpen openOrders now := by
  unfold acknowledgeOpenRoutine acknowledgeOpen
  rw [run_ite]
  congr 1
  refine run_bind_eq (run_only ..) fun found => ?_
  cases found with
  | error => rfl
  | ok waiting =>
      dsimp only
      rw [run_foldlM]
      congr 1
      funext count order
      exact setup.run_acknowledgeOpenOrderRoutine openOrders now count order

def ingestTradeRoutine (setup : Setup) (now : Instant) (report : CycleReport)
    (trade : ExchangeTrade) : Routine CycleReport := do
  let result ← only (.ingest (trade.toReport setup.exchange) now)
  return report.count result

def ingestTradesRoutine (setup : Setup) (now : Instant) :
    CycleReport → List String → Routine (Except ExchangeError CycleReport)
  | report, [] => return .ok report
  | report, instrument :: rest => do
    match ← setup.retry.execute (fun delay => only (.wait delay))
      (only (.askTrades instrument (now.before setup.lookback)) : Routine _) with
    | .error error => return .error error
    | .ok trades =>
      let report := { report with trades := report.trades + trades.length }
      let report ← trades.foldlM (setup.ingestTradeRoutine now) report
      setup.ingestTradesRoutine now report rest

theorem run_ingestTradesRoutine (setup : Setup) (now : Instant) (report : CycleReport)
    (instruments : List String) : (setup.ingestTradesRoutine now report instruments).run setup =
      setup.ingestTrades now report instruments := by
  induction instruments generalizing report with
  | nil => rfl
  | cons instrument rest ih =>
      unfold ingestTradesRoutine ingestTrades
      refine run_bind_eq (run_execute setup.retry (run_only ..)) fun answer => ?_
      cases answer with
      | error => rfl
      | ok trades =>
          dsimp only
          refine run_bind_eq (run_foldlM ..) fun counted => ?_
          exact ih counted

def reconcileRoutine (setup : Setup) (now : Instant) :
    Routine (Except ExchangeError CycleReport) := do
  match ← setup.retry.execute (fun delay => only (.wait delay)) (only .askOpenOrders : Routine _)
    with
  | .error error => return .error error
  | .ok openOrders =>
    let acknowledged ← setup.acknowledgeOpenRoutine openOrders now
    setup.ingestTradesRoutine now { openOrders := openOrders.length, acknowledged }
      (setup.instrumentsOf openOrders)

theorem run_reconcileRoutine (setup : Setup) (now : Instant) :
    (setup.reconcileRoutine now).run setup = setup.reconcile now := by
  unfold reconcileRoutine reconcile
  refine run_bind_eq (run_execute setup.retry (run_only ..)) fun answer => ?_
  cases answer with
  | error => rfl
  | ok openOrders =>
      dsimp only
      refine run_bind_eq (run_acknowledgeOpenRoutine ..) fun acknowledged => ?_
      exact setup.run_ingestTradesRoutine now _ _

def cycleRoutine (setup : Setup) (now : Instant) : Routine (Except ExchangeError CycleReport) := do
  let result ← setup.reconcileRoutine now
  only (.recordHealth fun health => setup.healthAfter now health result)
  return result

/-- A cycle is its routine, done in one go. -/
theorem run_cycleRoutine (setup : Setup) (now : Instant) :
    (setup.cycleRoutine now).run setup = setup.runCycle now := by
  unfold cycleRoutine runCycle
  exact run_bind_eq (run_reconcileRoutine ..) fun _ => rfl

end Setup

end SpotSettlement
