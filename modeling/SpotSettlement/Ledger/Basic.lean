import SpotSettlement.Code
import SpotSettlement.Execution.Economics
import SpotSettlement.Failure

namespace SpotSettlement

/-! # The ledger

Every fill is booked twice: each movement of the account has its counterpart on the clearing
account of the exchange, so that the entries of a transaction net to zero in every asset.
-/

/-- The side of an entry: a credit adds to the account, a debit takes from it. -/
inductive Direction where
  | debit
  | credit
  deriving DecidableEq, Repr, Inhabited

/-- What a transaction records. -/
inductive LedgerTransactionType where
  | execution
  deriving DecidableEq, Repr, Inhabited

/-- What an entry refers to: the account's side of an execution, or its counterpart. -/
inductive ReferenceType where
  | execution
  | executionOffset
  deriving DecidableEq, Repr, Inhabited

instance : Coded Direction where
  noun := "ledger_direction"
  values := [.debit, .credit]
  code
    | .debit => "DEBIT"
    | .credit => "CREDIT"

instance : Coded LedgerTransactionType where
  noun := "ledger_transaction_type"
  values := [.execution]
  code
    | .execution => "EXECUTION"

instance : Coded ReferenceType where
  noun := "ledger_reference_type"
  values := [.execution, .executionOffset]
  code
    | .execution => "EXECUTION"
    | .executionOffset => "EXECUTION_OFFSET"

/-- The account that takes the other side of every fill on an exchange. -/
def clearingAccount (exchange : String) : String := "clearing:" ++ exchange

/-- One line of a transaction. -/
structure LedgerEntry where
  transactionId : String
  account : String
  asset : String
  direction : Direction
  amount : Decimal
  referenceType : ReferenceType
  /-- The execution that the entry belongs to. -/
  referenceId : String
  deriving DecidableEq, Inhabited

/-- The amount with the sign of its direction: credits are positive. -/
def LedgerEntry.signedAmount (entry : LedgerEntry) : Decimal :=
  match entry.direction with
  | .credit => entry.amount
  | .debit => entry.amount.neg

/-- A group of entries that were booked together. -/
structure LedgerTransaction where
  id : String
  /-- The execution that the transaction settles. -/
  correlationId : String
  transactionType : LedgerTransactionType
  createdAt : Instant
  entries : List LedgerEntry
  deriving DecidableEq, Inhabited

namespace LedgerTransaction

/-- The signed amounts of entries, by asset. -/
def netOf (entries : List LedgerEntry) : Except Decimal.Overflow AssetTotals :=
  AssetTotals.ofMovements (entries.map fun entry => (entry.asset, entry.signedAmount))

/-- Refuses a transaction that has no entries, an amount that is not positive, or an asset that
does not net to zero; of several such assets the alphabetically first is named. -/
def verifyBalanced (transaction : LedgerTransaction) : Except Failure Unit := do
  if transaction.entries.isEmpty then
    refuse (LedgerError.noEntries transaction.id)
  match transaction.entries.find? (fun entry => !entry.amount.isPositive) with
  | some entry => refuse (LedgerError.nonPositiveAmount entry.amount)
  | none => do
    let net ← netOf transaction.entries
    match net.find? (fun (_, amount) => !amount.isZero) with
    | some (asset, amount) => refuse (LedgerError.unbalanced transaction.id asset amount)
    | none => return ()

/-- The two entries of one movement: the account's and its counterpart. -/
def entriesOfLeg (id : String) (execution : Execution) (leg : AssetLeg) : List LedgerEntry :=
  let (accountSide, clearingSide) : Direction × Direction :=
    if leg.amount.isPositive then (.credit, .debit) else (.debit, .credit)
  let entry (account : String) (direction : Direction) (referenceType : ReferenceType) :
      LedgerEntry :=
    { transactionId := id, account, asset := leg.asset, direction
      amount := leg.amount.abs, referenceType, referenceId := execution.id }
  [entry execution.account accountSide .execution,
    entry (clearingAccount execution.exchange) clearingSide .executionOffset]

/-- Books the movements of an execution. -/
def ofExecution (id : String) (execution : Execution) (economics : FillEconomics)
    (now : Instant) : Except Failure LedgerTransaction := do
  let transaction : LedgerTransaction :=
    { id, correlationId := execution.id, transactionType := .execution, createdAt := now
      entries := economics.legs.flatMap (entriesOfLeg id execution) }
  transaction.verifyBalanced
  return transaction

/-- The net movement of one account, by asset. -/
def netForAccount (transaction : LedgerTransaction) (account : String) :
    Except Decimal.Overflow AssetTotals :=
  netOf (transaction.entries.filter (·.account = account))

end LedgerTransaction

end SpotSettlement
