import SpotSettlement.Decimal.Text

namespace SpotSettlement

/-! # Ledger errors

Why a ledger transaction is not booked, and how that is worded.
-/

/-- Why a ledger transaction is not booked. -/
inductive LedgerError where
  /-- The entries of an asset do not net to zero. -/
  | unbalanced (transactionId asset : String) (net : Decimal)
  /-- An entry has an amount that is not positive. -/
  | nonPositiveAmount (amount : Decimal)
  /-- There are no entries. -/
  | noEntries (transactionId : String)
  deriving DecidableEq

def LedgerError.message : LedgerError → String
  | .unbalanced transactionId asset net =>
    "ledger transaction " ++ transactionId ++ " unbalanced in " ++ asset ++ ": net " ++ net.text
  | .nonPositiveAmount amount => "ledger entry amount must be positive, got " ++ amount.text
  | .noEntries transactionId => "ledger transaction " ++ transactionId ++ " has no entries"

end SpotSettlement
