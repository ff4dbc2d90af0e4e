import SpotSettlement.Failure
import SpotSettlement.Time.Instant

namespace SpotSettlement

/-! # Balances

What an account holds of an asset is in part available and in part reserved for open orders.
Funds move between the two parts, come in as available, and go out from either; no part may go
below zero.
-/

/-- The funds of an account in one asset. -/
structure WalletBalance where
  account : String
  asset : String
  available : Decimal
  reserved : Decimal
  updatedAt : Instant
  deriving DecidableEq, Inhabited

/-- Refuses an amount that is not positive. -/
def requireAmount (amount : Decimal) : Except WalletError Unit :=
  if amount.isPositive then .ok () else .error (.invalidAmount amount "must be positive")

namespace WalletBalance

def empty (account asset : String) (now : Instant) : WalletBalance :=
  ⟨account, asset, .zero, .zero, now⟩

def total (balance : WalletBalance) : Except Decimal.Overflow Decimal :=
  balance.available.add balance.reserved

/-- Refuses to take more from the reserved part than it holds. -/
def requireReserved (balance : WalletBalance) (amount : Decimal) : Except WalletError Unit :=
  if balance.reserved < amount then
    .error (.reservedMismatch balance.account balance.asset amount)
  else .ok ()

/-- Moves an amount from available to reserved. -/
def reserve (balance : WalletBalance) (amount : Decimal) (now : Instant) :
    Except Failure WalletBalance := do
  requireAmount amount
  if balance.available < amount then
    refuse (WalletError.insufficientBalance balance.account balance.asset amount
      balance.available)
  let available ← balance.available.sub amount
  let reserved ← balance.reserved.add amount
  return { balance with available, reserved, updatedAt := now }

/-- Moves an amount from reserved back to available. -/
def release (balance : WalletBalance) (amount : Decimal) (now : Instant) :
    Except Failure WalletBalance := do
  requireAmount amount
  balance.requireReserved amount
  let reserved ← balance.reserved.sub amount
  let available ← balance.available.add amount
  return { balance with available, reserved, updatedAt := now }

/-- Takes an amount out of the reserved part. -/
def consumeReserved (balance : WalletBalance) (amount : Decimal) (now : Instant) :
    Except Failure WalletBalance := do
  requireAmount amount
  balance.requireReserved amount
  let reserved ← balance.reserved.sub amount
  return { balance with reserved, updatedAt := now }

/-- Adds an amount to the available part. -/
def credit (balance : WalletBalance) (amount : Decimal) (now : Instant) :
    Except Failure WalletBalance := do
  requireAmount amount
  let available ← balance.available.add amount
  return { balance with available, updatedAt := now }

/-- Takes an amount out of the available part. -/
def debit (balance : WalletBalance) (amount : Decimal) (now : Instant) :
    Except Failure WalletBalance := do
  requireAmount amount
  if balance.available < amount then
    let missing ← amount.sub balance.available
    refuse (WalletError.shortfall balance.account balance.asset missing)
  let available ← balance.available.sub amount
  return { balance with available, updatedAt := now }

end WalletBalance

end SpotSettlement
