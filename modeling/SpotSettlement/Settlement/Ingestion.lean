import SpotSettlement.Ledger.Basic
import SpotSettlement.Settlement.Lifecycle

namespace SpotSettlement.Terms

/-! # Reports from the exchange

A reported fill is applied once: it is recorded under its trade, moves the funds, is booked in the
ledger, advances the order and closes its reservation with it, all in one unit of work.  A reported
status moves the order without a fill.
-/

open Coded Json

/-- Gives back what is left of the reservation of an order that has been closed. -/
def releaseIfClosed (order : Order) (now : Instant) : Work (Option WalletBalance) :=
  match Funds.closingStatus order.status with
  | some status => Funds.releaseFor order.id status now
  | none => return none

/-- Applies a fill to the order it belongs to. -/
def applyFill (terms : Terms) (order : Order) (report : ExecutionReport) (now : Instant) :
    Work IngestOutcome := do
  let executionId ← Store.mint
  let execution := Execution.ofReport executionId report order.id order.account
  Store.appendExecution execution
  match terms.catalog.assetPair report.instrument with
  | none => refuse (SettlementError.unknownInstrument report.instrument)
  | some pair =>
    let economics ← FillEconomics.ofExecution execution pair
    let deltas ← economics.netDeltas
    let balances ← Funds.settleFill order.account order.id deltas now
    let transactionId ← Store.mint
    let transaction ← LedgerTransaction.ofExecution transactionId execution economics now
    Store.appendLedger transaction
    let (fill, order) ← order.applyFill report.quantity report.reportedStatus now
    Store.updateOrder order
    let released ← releaseIfClosed order now
    let balances := match released with
      | some balance => Funds.mergeBalance balance balances
      | none => balances
    recordEvent order .executionApplied (some fill.transition.before) fill.transition.after
      (.object [("execution_id", .string execution.id), ("trade_id", .string execution.tradeId),
        ("quantity", execution.quantity.toJson), ("price", execution.price.toJson),
        ("prior_filled", fill.priorFilled.toJson), ("new_filled", fill.newFilled.toJson)]) now
    terms.announce (ExecutionRecorded.ofExecution execution) now
    terms.announceOrder order fill.transition.before none now
    terms.announceBalances balances "EXECUTION_SETTLED" order.id now
    return .inserted execution.id order.id order.status

/-- Ingests a reported fill.  One that is recorded already, or that no order matches, changes
nothing. -/
def processFill (terms : Terms) (report : ExecutionReport) (now : Instant) :
    Work IngestOutcome := do
  report.validate
  Work.start
  let store ← get
  match store.resolveOrder? report.exchange report.exchangeOrderId report.clientOrderId with
  | none => return .unmapped
  | some order =>
    if store.hasExecution (report.exchange, report.instrument, report.tradeId) then
      return .duplicate
    terms.applyFill order report now

/-- Applies a reported acknowledgement, if the order still waits for one. -/
def acknowledgeReported (terms : Terms) (order : Order) (report : StatusReport) (now : Instant) :
    Work ReconcileOutcome := do
  match report.exchangeOrderId with
  | none => return .unchanged
  | some exchangeOrderId =>
    if order.status ≠ .new then
      return .unchanged
    let transition ←
      terms.acknowledgeOrder order.id report.exchange exchangeOrderId report.clientOrderId now
    return if transition.isSome then .applied .acknowledged else .unchanged

/-- Applies a reported status other than an acknowledgement. -/
def reconcileStatus (terms : Terms) (order : Order) (report : StatusReport) (now : Instant) :
    Work ReconcileOutcome := do
  let (transition, order) ← order.applyReportedStatus report.status now
  match transition with
  | none => return .unchanged
  | some transition =>
    Store.updateOrder order
    let released ← releaseIfClosed order now
    recordEvent order .statusReconciled (some transition.before) transition.after
      (.object [("reported_status", Coded.toJson report.status),
        ("reason", ofOption .string report.reason)]) now
    terms.announceOrder order transition.before report.reason now
    terms.announceBalances released.toList "ORDER_CLOSED" order.id now
    return .applied transition.after

def processStatus (terms : Terms) (report : StatusReport) (now : Instant) :
    Work ReconcileOutcome := do
  Work.start
  match (← get).resolveOrder? report.exchange report.exchangeOrderId report.clientOrderId with
  | none => return .unmapped
  | some order =>
    if report.status = .acknowledged then terms.acknowledgeReported order report now
    else terms.reconcileStatus order report now

end SpotSettlement.Terms
