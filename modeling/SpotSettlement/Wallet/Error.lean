import SpotSettlement.Decimal.Text

namespace SpotSettlement

/-! # Wallet errors

Why funds cannot be reserved, released or settled, and how that is worded.
-/

inductive WalletError where
  /-- What is available does not cover a reservation. -/
  | insufficientBalance (account asset : String) (requested available : Decimal)
  /-- A debit exceeds the reservation and what is available. -/
  | shortfall (account asset : String) (missing : Decimal)
  /-- Less is reserved than a reservation relies on. -/
  | reservedMismatch (account asset : String) (required : Decimal)
  /-- An amount that must be positive is not. -/
  | invalidAmount (amount : Decimal) (problem : String)
  /-- The reservation is closed. -/
  | reservationInactive (reservationId status : String)
  deriving DecidableEq

def WalletError.message : WalletError → String
  | .insufficientBalance account asset requested available =>
    "insufficient " ++ asset ++ " balance for account " ++ account ++ ": requested " ++
      requested.text ++ ", available " ++ available.text
  | .shortfall account asset missing =>
    "settlement shortfall of " ++ missing.text ++ " " ++ asset ++ " for account " ++ account
  | .reservedMismatch account asset required =>
    "reserved " ++ asset ++ " balance for account " ++ account ++ " is below " ++ required.text
  | .invalidAmount amount problem => "invalid amount " ++ amount.text ++ ": " ++ problem
  | .reservationInactive reservationId status =>
    "reservation " ++ reservationId ++ " is " ++ status

end SpotSettlement
