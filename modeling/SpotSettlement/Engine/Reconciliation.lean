import SpotSettlement.Engine.Placement

namespace SpotSettlement.Setup

/-! # Catching up with the exchange

A cycle asks the exchange for the open orders and for the recent trades of every instrument that is
active or has open orders.  An open order that still waits for its acknowledgement gets it, and each
trade is ingested.  Trades that are refused are counted, and make the cycle incomplete.
-/

structure CycleReport where
  openOrders : Nat := 0
  acknowledged : Nat := 0
  trades : Nat := 0
  inserted : Nat := 0
  duplicates : Nat := 0
  unmapped : Nat := 0
  failed : Nat := 0
  deriving DecidableEq, Repr, Inhabited

namespace CycleReport

/-- The code under which an incomplete cycle is recorded. -/
def incompleteCode : String := "FILL_APPLY"

/-- Whether every trade could be applied. -/
def isComplete (report : CycleReport) : Bool := report.failed == 0

/-- What is said of an incomplete cycle. -/
def summary (report : CycleReport) : String :=
  toString report.failed ++ " of " ++ toString report.trades ++ " trades failed to apply"

def count (report : CycleReport) : Except SettlementError IngestOutcome → CycleReport
  | .ok (.inserted ..) => { report with inserted := report.inserted + 1 }
  | .ok .duplicate => { report with duplicates := report.duplicates + 1 }
  | .ok .unmapped => { report with unmapped := report.unmapped + 1 }
  | .error _ => { report with failed := report.failed + 1 }

end CycleReport

/-- The last of the open orders that the exchange has under a client id. -/
def openOrderOf? (openOrders : List ExchangeOrder) (clientOrderId : String) :
    Option ExchangeOrder :=
  openOrders.reverse.find? (·.clientOrderId == some clientOrderId)

/-- Acknowledges an order if it is among the open ones; tells how many were acknowledged. -/
def acknowledgeOpenOrder (setup : Setup) (openOrders : List ExchangeOrder) (now : Instant)
    (count : Nat) (order : Order) : Activity Nat := do
  match openOrderOf? openOrders order.outboundClientOrderId with
  | none => return count
  | some remote =>
    match ← Engine.perform (setup.terms.acknowledgeOrder order.id setup.exchange
        remote.exchangeOrderId remote.clientOrderId now) with
    | .ok (some _) => return count + 1
    | .ok none | .error _ => return count

/-- Acknowledges the waiting orders that are among the open ones; tells how many. -/
def acknowledgeOpen (setup : Setup) (openOrders : List ExchangeOrder) (now : Instant) :
    Activity Nat := do
  if openOrders.all (·.clientOrderId.isNone) then
    return 0
  match ← Engine.perform (Terms.awaitingAcknowledgement setup.exchange) with
  | .error _ => return 0
  | .ok waiting => waiting.foldlM (setup.acknowledgeOpenOrder openOrders now) 0

/-- The instruments of a cycle in the order of their symbols: the active ones, and those of the
open orders. -/
def instrumentsOf (setup : Setup) (openOrders : List ExchangeOrder) : List String :=
  let named := setup.terms.catalog.active ++ openOrders.map (Text.upper ·.instrument)
  (named.mergeSort fun a b => decide (a ≤ b)).eraseDups

def ingestTrade (setup : Setup) (now : Instant) (report : CycleReport) (trade : ExchangeTrade) :
    Activity CycleReport := do
  let result ← Engine.perform (setup.terms.processFill (trade.toReport setup.exchange) now)
  return report.count result

/-- Fetches and ingests the trades of instruments, up to the first that cannot be fetched. -/
def ingestTrades (setup : Setup) (now : Instant) :
    CycleReport → List String → Activity (Except ExchangeError CycleReport)
  | report, [] => return .ok report
  | report, instrument :: rest => do
    let since := now.before setup.lookback
    match ← setup.ask (.recentTrades instrument since) ExchangeAnswer.trades? with
    | .error error => return .error error
    | .ok trades =>
      let report := { report with trades := report.trades + trades.length }
      let report ← trades.foldlM (setup.ingestTrade now) report
      setup.ingestTrades now report rest

/-- What a cycle does with the exchange. -/
def reconcile (setup : Setup) (now : Instant) : Activity (Except ExchangeError CycleReport) := do
  match ← setup.ask .openOrders ExchangeAnswer.orders? with
  | .error error => return .error error
  | .ok openOrders =>
    let acknowledged ← setup.acknowledgeOpen openOrders now
    setup.ingestTrades now { openOrders := openOrders.length, acknowledged }
      (setup.instrumentsOf openOrders)

def healthAfter (setup : Setup) (now : Instant) (health : ConnectorHealth) :
    Except ExchangeError CycleReport → ConnectorHealth
  | .ok report =>
    if report.isComplete then
      health.recordPollSuccess report.openOrders report.trades setup.downThreshold now
    else
      health.recordPollIncomplete report.openOrders report.trades CycleReport.incompleteCode
        report.summary setup.downThreshold now
  | .error error => health.recordPollFailure error.code error.message setup.downThreshold now

/-- One cycle, recorded in the health of the connector. -/
def runCycle (setup : Setup) (now : Instant) : Activity (Except ExchangeError CycleReport) := do
  let result ← setup.reconcile now
  Engine.updateHealth fun health => setup.healthAfter now health result
  return result

end SpotSettlement.Setup
