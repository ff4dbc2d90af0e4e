import SpotSettlement.Wallet.Balance
import SpotSettlement.Wallet.Reservation

namespace SpotSettlement

/-! # Settling a movement

A movement into the account becomes available.  A movement out of it draws on the reservation of its
order first and on what is available for the rest; if both together do not cover it, nothing
changes.
-/

/-- Where a movement out of the account was taken from. -/
structure DebitSplit where
  fromReservation : Decimal
  fromAvailable : Decimal
  deriving DecidableEq, Inhabited

def DebitSplit.nothing : DebitSplit := ⟨.zero, .zero⟩

/-- What settling a movement leaves. -/
structure Settled where
  split : DebitSplit
  balance : WalletBalance
  reservation : Option WalletReservation
  deriving DecidableEq, Inhabited

namespace WalletBalance

/-- The part of a reservation that the balance can honour. -/
def reservable (balance : WalletBalance) : Option WalletReservation → Decimal
  | some reservation => reservation.amount.min balance.reserved
  | none => .zero

/-- Draws an amount from a reservation and from the reserved part of the balance. -/
def drawReserved (balance : WalletBalance) (reservation : Option WalletReservation)
    (amount : Decimal) (now : Instant) :
    Except Failure (WalletBalance × Option WalletReservation) :=
  match reservation with
  | some held =>
    if amount.isPositive then do
      let (_, held) ← held.consume amount now
      let balance ← balance.consumeReserved amount now
      return (balance, some held)
    else .ok (balance, some held)
  | none => .ok (balance, none)

/-- Settles a movement out of the account. -/
def payOut (balance : WalletBalance) (reservation : Option WalletReservation) (needed : Decimal)
    (now : Instant) : Except Failure Settled := do
  let fromReservation := needed.min (balance.reservable reservation)
  let fromAvailable ← needed.sub fromReservation
  if balance.available < fromAvailable then
    let missing ← fromAvailable.sub balance.available
    refuse (WalletError.shortfall balance.account balance.asset missing)
  let (balance, reservation) ← balance.drawReserved reservation fromReservation now
  let balance ← if fromAvailable.isPositive then balance.debit fromAvailable now
    else pure balance
  return ⟨⟨fromReservation, fromAvailable⟩, balance, reservation⟩

/-- Settles a movement of either direction. -/
def applyDelta (balance : WalletBalance) (reservation : Option WalletReservation)
    (delta : Decimal) (now : Instant) : Except Failure Settled :=
  if delta.isPositive then do
    let balance ← balance.credit delta now
    return ⟨.nothing, balance, reservation⟩
  else if delta.isZero then .ok ⟨.nothing, balance, reservation⟩
  else balance.payOut reservation delta.neg now

end WalletBalance

end SpotSettlement
