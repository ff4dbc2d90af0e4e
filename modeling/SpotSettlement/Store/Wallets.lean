import SpotSettlement.Store.Basic
import SpotSettlement.Wallet.Delta

namespace SpotSettlement.Store

/-! # Balances and reservations in the store

There is one balance for an account and an asset, and at most one active reservation for an order.
-/

def balance? (store : Store) (account asset : String) : Option WalletBalance :=
  store.balances.find? fun balance => balance.account == account && balance.asset == asset

/-- Replaces the balance of the same account and asset, or adds one. -/
def putBalance (balance : WalletBalance) : List WalletBalance → List WalletBalance
  | [] => [balance]
  | other :: rest =>
    if other.account == balance.account && other.asset == balance.asset then balance :: rest
    else other :: putBalance balance rest

def saveBalance (balance : WalletBalance) : Work Unit :=
  modify fun store => { store with balances := putBalance balance store.balances }

/-- The balance of an account in an asset; one without funds is added if there is none. -/
def claimBalance (account asset : String) (now : Instant) : Work WalletBalance := do
  match (← get).balance? account asset with
  | some balance => return balance
  | none =>
    let balance := WalletBalance.empty account asset now
    saveBalance balance
    return balance

/-- Adds an amount to what an account has available. -/
def seedBalance (account asset : String) (amount : Decimal) (now : Instant) : Work Unit := do
  let balance ← claimBalance account asset now
  let available ← balance.available.add amount
  saveBalance { balance with available, updatedAt := now }

def activeReservation? (store : Store) (orderId : String) : Option WalletReservation :=
  store.reservations.find? fun reservation =>
    reservation.orderId == orderId && reservation.status == .active

def reservationsOf (store : Store) (orderId : String) : List WalletReservation :=
  store.reservations.filter (·.orderId == orderId)

def insertReservation (reservation : WalletReservation) : Work Unit := do
  let store ← get
  if reservation.status = .active ∧ (store.activeReservation? reservation.orderId).isSome then
    refuse (StoreError.storage
      ("order " ++ reservation.orderId ++ " already has an active reservation"))
  set { store with reservations := store.reservations ++ [reservation] }

/-- Replaces the first reservation that has the same identifier. -/
def putReservation (reservation : WalletReservation) :
    List WalletReservation → List WalletReservation
  | [] => []
  | other :: rest =>
    if other.id == reservation.id then reservation :: rest
    else other :: putReservation reservation rest

/-- Writes a reservation that is there already. -/
def saveReservation (reservation : WalletReservation) : Work Unit := do
  let store ← get
  if ¬ store.reservations.any (·.id == reservation.id) then
    refuse (StoreError.notFound "wallet_reservation" reservation.id)
  set { store with reservations := putReservation reservation store.reservations }

end SpotSettlement.Store
