import SpotSettlement.Engine.Dispatch
import SpotSettlement.Engine.Reconciliation
import SpotSettlement.Engine.Submission
import SpotSettlement.Inspection.Order
import SpotSettlement.Inspection.Rows

namespace SpotSettlement

/-! # The engine inspected

What its activities report, and what it writes down while they run.
-/

instance : Inspect IngestOutcome where
  inspect outcome :=
    let inserted := match outcome with
      | .inserted executionId orderId status =>
        [("inserted", .array [inspect executionId, inspect orderId, inspect status])]
      | _ => []
    .object (("outcome", inspect outcome.label) :: inserted)

instance : Inspect ReconcileOutcome where
  inspect
    | .applied status => .object [("applied", inspect status)]
    | .unchanged => inspect "UNCHANGED"
    | .unmapped => inspect "UNMAPPED"

instance : Inspect Setup.SubmissionOutcome where
  inspect
    | .acknowledged exchangeOrderId => .object [("acknowledged", inspect exchangeOrderId)]
    | .rejected reason => .object [("rejected", inspect reason)]
    | .skipped status => .object [("skipped", inspect status)]

instance : Inspect Setup.SubmissionReport where
  inspect report := inspect [report.received, report.acknowledged, report.rejected, report.skipped,
    report.malformed, report.failed]

instance : Inspect DispatchReport where
  inspect report := inspect [report.reclaimed, report.claimed, report.published, report.failed,
    report.dead]

def Setup.CycleReport.inspectCounts (report : Setup.CycleReport) : Json :=
  inspect [report.openOrders, report.acknowledged, report.trades, report.inserted,
    report.duplicates, report.unmapped, report.failed]

/-- What came of a cycle: its counts and how it sums up, or the error that ended it. -/
def Setup.inspectCycle : Except ExchangeError Setup.CycleReport → Json
  | .ok report => .object [("ok", report.inspectCounts), ("complete", inspect report.isComplete),
      ("summary", inspect report.summary)]
  | .error error => inspect error

def Order.inspectAcknowledged : Option Transition → Json
  | some transition => inspect transition
  | none => inspect "ALREADY"

instance : Inspect ConnectorNote where
  inspect
    | .health health => .array [inspect "health", inspect health.status, inspect health.websocket,
        inspect health.reconnectAttempts, inspect health.lastErrorCode,
        inspect health.lastErrorMessage, inspect health.stream]
    | .replay deduplicated trigger reason requestedBy => .array [inspect "replay",
        inspect (if deduplicated then "deduplicated" else "enqueued"), inspect trigger,
        inspect reason, inspect requestedBy]

instance : Inspect AuditLine where
  inspect line := .object [
    ("action", inspect line.action), ("account", inspect line.account),
    ("order", inspect line.orderId), ("details", line.details), ("at", inspect line.moment)]

end SpotSettlement
