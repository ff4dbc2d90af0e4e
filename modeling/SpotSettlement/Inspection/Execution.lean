import SpotSettlement.Inspection.Basic
import SpotSettlement.Ledger.Basic
import SpotSettlement.Stream.Event

namespace SpotSettlement

/-! # Fills inspected

Reports, executions and the ledger transactions that follow from them.
-/

instance : Inspect ExecutionReport where
  inspect report := .object [
    ("exchange", inspect report.exchange), ("instrument", inspect report.instrument),
    ("trade_id", inspect report.tradeId), ("xid", inspect report.exchangeOrderId),
    ("cid", inspect report.clientOrderId), ("side", inspect report.side),
    ("quantity", inspect report.quantity), ("price", inspect report.price),
    ("fee_asset", inspect report.feeAsset), ("fee", inspect report.fee),
    ("status", inspect report.reportedStatus), ("at", inspect report.executedAt)]

instance : Inspect StatusReport where
  inspect report := .object [
    ("exchange", inspect report.exchange), ("instrument", inspect report.instrument),
    ("xid", inspect report.exchangeOrderId), ("cid", inspect report.clientOrderId),
    ("status", inspect report.status), ("reason", inspect report.reason),
    ("at", inspect report.reportedAt)]

instance : Inspect StreamEvent where
  inspect
    | .execution report => .object [("execution", inspect report)]
    | .status report => .object [("status", inspect report)]
    | .ignored => inspect "IGNORED"

instance : Inspect Execution where
  inspect execution := .object [
    ("id", inspect execution.id), ("order", inspect execution.orderId),
    ("account", inspect execution.account), ("instrument", inspect execution.instrument),
    ("trade_id", inspect execution.tradeId), ("exchange", inspect execution.exchange),
    ("xid", inspect execution.exchangeOrderId), ("side", inspect execution.side),
    ("quantity", inspect execution.quantity), ("price", inspect execution.price),
    ("fee_asset", inspect execution.feeAsset), ("fee", inspect execution.fee),
    ("at", inspect execution.executedAt), ("notional", inspectComputed execution.notional)]

/-- Totals as an object with a member for each asset. -/
def AssetTotals.inspect (totals : AssetTotals) : Json :=
  .object (totals.map fun (asset, amount) => (asset, SpotSettlement.inspect amount))

/-- The part that a leg of a fill plays. -/
def LegKind.name : LegKind → String
  | .base => "base"
  | .quote => "quote"
  | .fee => "fee"

instance : Inspect AssetLeg where
  inspect leg := .array [inspect leg.kind.name, inspect leg.asset, inspect leg.amount]

/-- An entry, and whether it says to belong to its transaction. -/
def LedgerTransaction.inspectEntry (transaction : LedgerTransaction) (entry : LedgerEntry) : Json :=
  .object [
    ("account", inspect entry.account), ("asset", inspect entry.asset),
    ("direction", inspect entry.direction), ("amount", inspect entry.amount),
    ("signed", inspect entry.signedAmount), ("reference_type", inspect entry.referenceType),
    ("reference_id", inspect entry.referenceId),
    ("linked", inspect (entry.transactionId == transaction.id))]

def LedgerTransaction.inspectEntries (transaction : LedgerTransaction) : Json :=
  .array (transaction.entries.map transaction.inspectEntry)

def LedgerTransaction.inspectBalance (transaction : LedgerTransaction) : Json :=
  inspect (transaction.verifyBalanced.map fun () => true)

instance : Inspect LedgerTransaction where
  inspect transaction := .object [
    ("id", inspect transaction.id), ("correlation_id", inspect transaction.correlationId),
    ("type", inspect transaction.transactionType), ("created", inspect transaction.createdAt),
    ("entries", transaction.inspectEntries), ("verify", transaction.inspectBalance)]

end SpotSettlement
