import SpotSettlement.Code
import SpotSettlement.Failure
import SpotSettlement.Time.Instant

namespace SpotSettlement

/-! # Reservations

An order holds funds until it is closed.  Fills draw the reservation down, and closing it gives back
what is left.
-/

/-- Where a reservation stands: it holds funds, or it was closed by a cancellation, by a complete
fill, or by a refusal of the exchange. -/
inductive ReservationStatus where
  | active
  | released
  | consumed
  | cancelled
  deriving DecidableEq, Repr, Inhabited

instance : Coded ReservationStatus where
  noun := "reservation_status"
  values := [.active, .released, .consumed, .cancelled]
  code
    | .active => "ACTIVE"
    | .released => "RELEASED"
    | .consumed => "CONSUMED"
    | .cancelled => "CANCELLED"

/-- The funds that an order holds. -/
structure WalletReservation where
  id : String
  account : String
  asset : String
  /-- What is still held. -/
  amount : Decimal
  orderId : String
  status : ReservationStatus
  createdAt : Instant
  updatedAt : Instant
  deriving DecidableEq, Inhabited

namespace WalletReservation

def opened (id account asset : String) (amount : Decimal) (orderId : String) (now : Instant) :
    WalletReservation :=
  ⟨id, account, asset, amount, orderId, .active, now, now⟩

/-- Refuses a reservation that is closed. -/
def requireActive (reservation : WalletReservation) : Except WalletError Unit :=
  if reservation.status = .active then .ok ()
  else .error (.reservationInactive reservation.id (Coded.code reservation.status))

/-- Draws up to the wanted amount, and tells how much was taken. -/
def consume (reservation : WalletReservation) (wanted : Decimal) (now : Instant) :
    Except Failure (Decimal × WalletReservation) := do
  reservation.requireActive
  let taken := (wanted.min reservation.amount).max .zero
  let amount ← reservation.amount.sub taken
  return (taken, { reservation with amount, updatedAt := now })

/-- Closes the reservation, and tells what was left in it. -/
def close (reservation : WalletReservation) (status : ReservationStatus) (now : Instant) :
    Except WalletError (Decimal × WalletReservation) := do
  reservation.requireActive
  return (reservation.amount,
    { reservation with amount := .zero, status, updatedAt := now })

end WalletReservation

end SpotSettlement
