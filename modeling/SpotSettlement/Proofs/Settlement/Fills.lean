import SpotSettlement.Proofs.Ledger.Booking
import SpotSettlement.Proofs.Order.Changes
import SpotSettlement.Proofs.Settlement.Announcement
import SpotSettlement.Proofs.Settlement.ExactFunds
import SpotSettlement.Proofs.Store.Orders
import SpotSettlement.Settlement.Ingestion

namespace SpotSettlement

/-! # What a fill does to the store

A fill that is applied records an execution, settles its movements, books them, advances the order,
closes its reservation if that completes it, and tells of all this.  Here are the stores that lie
between, and the arithmetic that is done on the way.
-/

open Decimal

namespace Store

/-- The store with an execution added, and an identifier handed out for it. -/
def withExecution (store : Store) (execution : Execution) : Store :=
  { store with minted := store.minted + 1, executions := store.executions ++ [execution] }

/-- The store with a transaction booked, and an identifier handed out for it. -/
def withTransaction (store : Store) (transaction : LedgerTransaction) : Store :=
  { store with minted := store.minted + 1, ledger := store.ledger ++ [transaction] }

/-- Only funds differ between two stores, and the identifiers handed out. -/
structure FundsMoved (store after : Store) : Prop where
  tables : after = { store with
    balances := after.balances
    reservations := after.reservations
    minted := after.minted }
  minted : store.minted ≤ after.minted
  issued : store.Issued (store.reservations.map (·.id)) →
    after.Issued (after.reservations.map (·.id))
  solvent : store.Solvent → after.Solvent

variable {store after : Store}

theorem FundsMoved.refl (store : Store) : store.FundsMoved store :=
  ⟨rfl, Nat.le_refl _, id, id⟩

theorem FundsMoved.trans {middle : Store} (first : store.FundsMoved middle)
    (second : middle.FundsMoved after) : store.FundsMoved after where
  tables := by rw [second.tables, first.tables]
  minted := Nat.le_trans first.minted second.minted
  issued start := second.issued (first.issued start)
  solvent start := second.solvent (first.solvent start)

theorem withBalance_funds {balance : WalletBalance}
    (nonneg : store.Solvent → balance.Nonnegative) :
    store.FundsMoved (store.withBalance balance) where
  tables := rfl
  minted := Nat.le_refl _
  issued := id
  solvent start := start.withBalance (nonneg start)

/-- A new reservation takes the identifier that is handed out next. -/
theorem withNewReservation_funds {reservation : WalletReservation}
    (next : reservation.id = identifier (store.minted + 1)) :
    store.FundsMoved (store.withNewReservation reservation) where
  tables := rfl
  minted := Nat.le_succ _
  issued start := by
    rw [withNewReservation, List.map_append, List.map_singleton, next]
    exact start.append (Nat.lt_succ_self _) (Nat.le_refl _)
  solvent := id

theorem withReservation_funds (store : Store) (reservation : WalletReservation) :
    store.FundsMoved (store.withReservation reservation) where
  tables := rfl
  minted := Nat.le_refl _
  issued start := by
    rw [withReservation, map_id_putReservation]
    exact start.mono (Nat.le_refl _)
  solvent := id

theorem FundsMoved.orders (moved : store.FundsMoved after) : after.orders = store.orders :=
  congrArg (·.orders) moved.tables

theorem FundsMoved.orderEvents (moved : store.FundsMoved after) :
    after.orderEvents = store.orderEvents :=
  congrArg (·.orderEvents) moved.tables

theorem FundsMoved.executions (moved : store.FundsMoved after) :
    after.executions = store.executions :=
  congrArg (·.executions) moved.tables

theorem FundsMoved.ledger (moved : store.FundsMoved after) : after.ledger = store.ledger :=
  congrArg (·.ledger) moved.tables

theorem FundsMoved.outbox (moved : store.FundsMoved after) : after.outbox = store.outbox :=
  congrArg (·.outbox) moved.tables

theorem FundsMoved.unitOutage (moved : store.FundsMoved after) :
    after.unitOutage = store.unitOutage :=
  congrArg (·.unitOutage) moved.tables

end Store

namespace Funds

variable {store after : Store} {order : Order} {pair : AssetPair} {now : Instant}
  {outcome : Option WalletBalance} {balances : List WalletBalance} {orderId account : String}
  {status : ReservationStatus} {deltas : AssetTotals}

theorem reserveFor_funds (done : (reserveFor order pair now).run store = .ok (outcome, after)) :
    store.FundsMoved after := by
  obtain ⟨-, -, rfl⟩ | ⟨asset, amount, balance, -, reserved, -, rfl⟩ := reserveFor_cases done
  · exact .refl after
  · have written : store.FundsMoved (store.withBalance balance) := by
      apply Store.withBalance_funds
      intro solvent
      exact WalletBalance.reserve_nonnegative (solvent.balanceOf _ _ _) reserved
    exact written.trans (Store.withNewReservation_funds rfl)

theorem releaseFor_funds
    (done : (releaseFor orderId status now).run store = .ok (outcome, after)) :
    store.FundsMoved after := by
  obtain ⟨-, -, rfl⟩ | ⟨held, balance, -, -, released, rfl⟩ := releaseFor_cases done
  · exact .refl after
  · have written : store.FundsMoved (store.withBalance balance) := by
      apply Store.withBalance_funds
      intro solvent
      have before := solvent.balanceOf held.account held.asset now
      obtain ⟨-, rfl⟩ | ⟨-, given⟩ := released
      · exact before
      · exact WalletBalance.release_nonnegative before given
    exact written.trans (Store.withReservation_funds _ _)

theorem settleFill_funds
    (done : (settleFill account orderId deltas now).run store = .ok (balances, after)) :
    store.FundsMoved after := by
  obtain ⟨next, middle, settling, -, saved⟩ := settleFill_cases done
  have advance := settleAll_advance settling
  have settled : store.FundsMoved middle := by
    refine ⟨?_, ?_, ?_, advance.solvent⟩ <;> rw [advance.tables]
    exact id
  obtain ⟨-, rfl⟩ | ⟨drawn, -, rfl⟩ := saved
  · exact settled
  · exact settled.trans (Store.withReservation_funds middle drawn)

end Funds

theorem OrderStatus.isSome_closingStatus (status : OrderStatus) :
    (Funds.closingStatus status).isSome = status.isTerminal := by
  cases status <;> rfl

namespace Terms

variable {terms : Terms} {store after : Store} {order : Order} {now : Instant}
  {released : Option WalletBalance} {report : ExecutionReport}

def closingArithmetic (order : Order) (store : Store) (now : Instant) : List Operation :=
  if (Funds.closingStatus order.status).isSome then Funds.releaseArithmetic order.id store now
  else []

theorem releaseIfClosed_cases
    (done : (releaseIfClosed order now).run store = .ok (released, after)) :
    (Funds.closingStatus order.status = none ∧ released = none ∧ after = store) ∨
    ∃ status, Funds.closingStatus order.status = some status ∧
      (Funds.releaseFor order.id status now).run store = .ok (released, after) := by
  unfold releaseIfClosed at done
  cases closing : Funds.closingStatus order.status with
  | none =>
      simp only [closing, Work.pure_ok] at done
      exact .inl ⟨rfl, done.1.symm, done.2.symm⟩
  | some status =>
      simp only [closing] at done
      exact .inr ⟨status, rfl, done⟩

theorem releaseIfClosed_funds
    (done : (releaseIfClosed order now).run store = .ok (released, after)) :
    store.FundsMoved after := by
  obtain ⟨-, -, rfl⟩ | ⟨status, -, release⟩ := releaseIfClosed_cases done
  · exact .refl after
  · exact Funds.releaseFor_funds release

/-- The arithmetic that advances an order by a fill, and closes it if that completes it. -/
def advanceArithmetic (order : Order) (report : ExecutionReport) (store : Store) (now : Instant) :
    List Operation :=
  .add order.filled report.quantity ::
    match order.applyFill report.quantity report.reportedStatus now with
    | .ok (_, moved) => closingArithmetic moved store now
    | .error _ => []

/-- The arithmetic that settles and books an execution, and advances its order. -/
def settlementArithmetic (order : Order) (report : ExecutionReport) (execution : Execution)
    (economics : FillEconomics) (store : Store) (now : Instant) : List Operation :=
  AssetTotals.movementsArithmetic economics.movements [] ++
    match economics.netDeltas with
    | .error _ => []
    | .ok deltas =>
      Funds.settleArithmetic order.account now deltas
          ⟨store.activeReservation? order.id, false, []⟩ store ++
        match (Funds.settleFill order.account order.id deltas now).run store with
        | .error _ => []
        | .ok (_, settled) =>
          match LedgerTransaction.ofExecution (Store.identifier (settled.minted + 1)) execution
              economics now with
          | .error _ => []
          | .ok _ => advanceArithmetic order report settled now

def executionOf (store : Store) (order : Order) (report : ExecutionReport) : Execution :=
  Execution.ofReport (Store.identifier (store.minted + 1)) report order.id order.account

def fillArithmetic (terms : Terms) (order : Order) (report : ExecutionReport) (store : Store)
    (now : Instant) : List Operation :=
  match terms.catalog.assetPair report.instrument with
  | none => []
  | some pair =>
    .mul report.quantity report.price ::
      match FillEconomics.ofExecution (executionOf store order report) pair with
      | .error _ => []
      | .ok economics =>
        settlementArithmetic order report (executionOf store order report) economics
          (store.withExecution (executionOf store order report)) now

/-- The effect of a fill: how it changes the store, and the arithmetic of it. -/
inductive Fills (terms : Terms) (order : Order) (report : ExecutionReport) (now : Instant)
    (store : Store) : IngestOutcome → Store → Prop where
  | applied {pair : AssetPair} {economics : FillEconomics} {deltas : AssetTotals}
      {balances : List WalletBalance} {settled : Store} {transaction : LedgerTransaction}
      {fill : FillTransition} {moved : Order} {released : Option WalletBalance} {closed : Store}
      {event : OrderEvent} {execution : OutboxRow} {orderRows balanceRows : List OutboxRow}
      (listed : terms.catalog.assetPair report.instrument = some pair)
      (valued : FillEconomics.ofExecution (executionOf store order report) pair = .ok economics)
      (netted : economics.netDeltas = .ok deltas)
      (settle : (Funds.settleFill order.account order.id deltas now).run
        (store.withExecution (executionOf store order report)) = .ok (balances, settled))
      (book : LedgerTransaction.ofExecution (Store.identifier (settled.minted + 1))
        (executionOf store order report) economics now = .ok transaction)
      (advance : order.applyFill report.quantity report.reportedStatus now = .ok (fill, moved))
      (close : (releaseIfClosed moved now).run
        ((settled.withTransaction transaction).withOrder moved) = .ok (released, closed))
      (audited : ∃ details, event = ⟨Store.identifier (closed.minted + 1), moved.id,
        .executionApplied, some fill.transition.before, fill.transition.after, details, now⟩)
      (announced : execution.Announces terms
        (ExecutionRecorded.ofExecution (executionOf store order report)) (closed.minted + 2) now)
      (announcedOrder :
        terms.AnnounceOrder moved fill.transition.before none (closed.minted + 3) now orderRows)
      (announcedBalances : terms.AnnounceBalances
        (released.elim balances (Funds.mergeBalance · balances)) "EXECUTION_SETTLED" moved.id
        (closed.minted + 2 + orderRows.length + 1) now balanceRows) :
      Fills terms order report now store
        (.inserted (executionOf store order report).id moved.id moved.status)
        ((closed.recorded event).announced ([execution] ++ (orderRows ++ balanceRows)))

theorem applyFill_fills {outcome : IngestOutcome}
    (done : (terms.applyFill order report now).run store = .ok (outcome, after)) :
    Fills terms order report now store outcome after := by
  simp only [applyFill, Work.bind_ok, Store.mint_ok, Store.appendExecution, Work.modify_ok] at done
  obtain ⟨_, _, ⟨rfl, rfl⟩, _, _, rfl, done⟩ := done
  cases listed : terms.catalog.assetPair report.instrument with
  | none => simp only [listed, Work.failing_ok, refuse_ok_iff, false_and] at done
  | some pair =>
      simp only [listed, Work.bind_ok, Work.lift_ok, Work.failing_ok, Store.mint_ok,
        Store.appendLedger, Work.modify_ok, Store.updateOrder_ok, recordEvent_ok, Work.pure_ok]
        at done
      obtain ⟨economics, _, ⟨valued, rfl⟩, done⟩ := done
      obtain ⟨deltas, _, ⟨netted, rfl⟩, done⟩ := done
      obtain ⟨balances, settled, settle, done⟩ := done
      obtain ⟨_, _, ⟨rfl, rfl⟩, done⟩ := done
      obtain ⟨transaction, _, ⟨book, rfl⟩, done⟩ := done
      obtain ⟨_, _, rfl, done⟩ := done
      obtain ⟨⟨fill, moved⟩, _, ⟨advance, rfl⟩, done⟩ := done
      obtain ⟨_, _, ⟨-, rfl⟩, done⟩ := done
      obtain ⟨released, closed, close, done⟩ := done
      obtain ⟨_, _, rfl, done⟩ := done
      obtain ⟨_, _, announcing, done⟩ := done
      obtain ⟨_, _, announcingOrder, done⟩ := done
      obtain ⟨_, _, announcingBalances, done⟩ := done
      obtain ⟨rfl, rfl⟩ := done
      obtain ⟨execution, announced, rfl⟩ := announce_ok announcing
      obtain ⟨orderRows, announcedOrder, rfl⟩ := announceOrder_ok announcingOrder
      obtain ⟨balanceRows, announcedBalances, rfl⟩ := announceBalances_ok announcingBalances
      rw [Store.announced_announced, Store.announced_announced]
      refine .applied listed valued netted settle book advance close ⟨_, rfl⟩ announced
        announcedOrder ?_
      cases released <;> exact announcedBalances

end Terms

end SpotSettlement
