import SpotSettlement.Connector.Health
import SpotSettlement.Connector.Replay
import SpotSettlement.Ledger.Basic
import SpotSettlement.Order.Basic
import SpotSettlement.Outbox.Row
import SpotSettlement.Wallet.Reservation

namespace SpotSettlement

/-! # The store

The store holds everything that is kept: orders with their audit trail, executions, balances,
reservations, the ledger, the outbox, and the health and replay requests of connectors.  A unit of
work either does all it sets out to do or leaves the store as it was.
-/

/-- The rows of the store.  Rows of a list stand in the order they were written, except orders,
which stand in the order of their identifiers. -/
structure Store where
  orders : List Order := []
  orderEvents : List OrderEvent := []
  executions : List Execution := []
  balances : List WalletBalance := []
  reservations : List WalletReservation := []
  ledger : List LedgerTransaction := []
  outbox : List OutboxRow := []
  health : List ConnectorHealth := []
  replays : List ReplayRequest := []
  /-- How many identifiers have been handed out. -/
  minted : Nat := 0
  /-- Why no unit of work can begin, if none can. -/
  unitOutage : Option String := none
  /-- Why the rows of connectors cannot be reached, if they cannot. -/
  connectorOutage : Option String := none
  deriving Inhabited

/-- A part of a unit of work. -/
abbrev Work := StateT Store (Except Failure)

namespace Work

/-- Starts a unit of work, which the store may refuse. -/
def start : Work Unit := do
  match (← get).unitOutage with
  | some problem => refuse (StoreError.storage problem)
  | none => return ()

end Work

namespace Store

/-- Does a unit of work: all of it, or nothing if it fails. -/
def perform {α : Type} (store : Store) (work : Work α) : Except Failure α × Store :=
  match work.run store with
  | .ok (value, store) => (.ok value, store)
  | .error failure => (.error failure, store)

/-- The identifier with a number.  Different numbers give different identifiers. -/
def identifier (number : Nat) : String :=
  "00000000-0000-4000-8000-" ++ Text.padded 12 number

/-- Hands out an identifier that was never handed out before. -/
def mint : Work String := do
  let store ← get
  set { store with minted := store.minted + 1 }
  return identifier (store.minted + 1)

theorem perform_error {α : Type} {store : Store} {work : Work α} {failure : Failure}
    (failed : (store.perform work).1 = .error failure) : (store.perform work).2 = store := by
  unfold perform at *
  split at failed
  · exact absurd failed (by simp)
  · rfl

end Store

end SpotSettlement
