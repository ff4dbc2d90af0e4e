import SpotSettlement.AssetTotals
import SpotSettlement.Store.Wallets

namespace SpotSettlement.Funds

/-! # The funds of an order

An order that needs funds reserves them when it is created, its fills draw on them, and closing it
gives back the rest.
-/

/-- Reserves what the order requires, and gives the balance it was taken from. -/
def reserveFor (order : Order) (pair : AssetPair) (now : Instant) :
    Work (Option WalletBalance) := do
  match ← order.reservationRequirement pair with
  | none => return none
  | some (asset, amount) =>
    if ¬ amount.isPositive then
      refuse (WalletError.invalidAmount amount "reservation must be positive")
    let balance ← Store.claimBalance order.account asset now
    let balance ← balance.reserve amount now
    Store.saveBalance balance
    let id ← Store.mint
    Store.insertReservation (.opened id order.account asset amount order.id now)
    return some balance

/-- Closes the active reservation of an order, if there is one, and gives the balance that got the
rest back. -/
def releaseFor (orderId : String) (status : ReservationStatus) (now : Instant) :
    Work (Option WalletBalance) := do
  match (← get).activeReservation? orderId with
  | none => return none
  | some reservation =>
    let balance ← Store.claimBalance reservation.account reservation.asset now
    let (remainder, closed) ← reservation.close status now
    let balance ← if remainder.isPositive then do
        let balance ← balance.release remainder now
        Store.saveBalance balance
        pure balance
      else pure balance
    Store.saveReservation closed
    return some balance

/-- The status in which an order leaves its reservation when it is closed. -/
def closingStatus : OrderStatus → Option ReservationStatus
  | .canceled => some .released
  | .rejected => some .cancelled
  | .filled => some .consumed
  | _ => none

/-- How far the settling of a fill has come. -/
structure Progress where
  reservation : Option WalletReservation
  /-- Whether the reservation was drawn on. -/
  drawn : Bool
  balances : List WalletBalance

/-- Settles the movement of one asset.  Only a reservation in that asset is drawn on. -/
def settleDelta (account : String) (now : Instant) (progress : Progress)
    (delta : String × Decimal) : Work Progress := do
  let (asset, amount) := delta
  let balance ← Store.claimBalance account asset now
  let matching := progress.reservation.filter (·.asset == asset)
  let settled ← balance.applyDelta matching amount now
  Store.saveBalance settled.balance
  return {
    reservation := if matching.isSome then settled.reservation else progress.reservation
    drawn := progress.drawn || settled.split.fromReservation.isPositive
    balances := progress.balances ++ [settled.balance] }

/-- Settles the movements of a fill, and gives the balances after them. -/
def settleFill (account orderId : String) (deltas : AssetTotals) (now : Instant) :
    Work (List WalletBalance) := do
  let reservation := (← get).activeReservation? orderId
  let progress ← deltas.foldlM (settleDelta account now) ⟨reservation, false, []⟩
  match progress.reservation with
  | some reservation => if progress.drawn then Store.saveReservation reservation
  | none => pure ()
  return progress.balances

/-- Replaces the balance of the same asset, or adds one at the end. -/
def mergeBalance (updated : WalletBalance) : List WalletBalance → List WalletBalance
  | [] => [updated]
  | other :: rest =>
    if other.asset == updated.asset then updated :: rest else other :: mergeBalance updated rest

end SpotSettlement.Funds
