import SpotSettlement.Proofs.Settlement.Fills

namespace SpotSettlement.Terms

/-! # What the lifecycle of an order does to the store

An operation that succeeds creates an order, moves one to another status, or finds nothing to do.
Each operation is taken apart here once; a move is the same for all operations that make one.
-/

variable {terms : Terms} {store after : Store} {order moved : Order} {now : Instant}
  {orderId account : String} {eventType : OrderEventType} {transition : Transition}

/-- The effect of creating an order on the store. -/
inductive Creates (terms : Terms) (command : OrderCommand) (now : Instant) (order : Order)
    (store : Store) : Store → Prop where
  | created {pair : AssetPair} {reserved : Option WalletBalance} {funds : Store} {details : Json}
      {submitted : OutboxRow} {balanceRows : List OutboxRow}
      (create : Order.create (Store.identifier store.freshOrderNumber) command now = .ok order)
      (listed : terms.catalog.assetPair order.instrument = some pair)
      (absent : store.order? order.id = none) (untaken : ¬store.ClientIdTaken order)
      (reserve : (Funds.reserveFor order pair now).run (store.withNewOrder order) =
        .ok (reserved, funds))
      (announced : submitted.Announces terms (OrderSubmitted.ofOrder order) (funds.minted + 2) now)
      (announcedBalances :
        terms.AnnounceBalances reserved.toList "ORDER_RESERVED" order.id (funds.minted + 3) now
          balanceRows) :
      Creates terms command now order store
        ((funds.recorded ⟨Store.identifier (funds.minted + 1), order.id, .created, none, .new,
          details, now⟩).announced ([submitted] ++ balanceRows))

theorem createOrder_creates {command : OrderCommand}
    (done : (terms.createOrder command now).run store = .ok (order, after)) :
    terms.Creates command now order store after := by
  simp only [createOrder, Work.bind_ok, Store.mintOrder_ok, Work.lift_ok] at done
  obtain ⟨_, _, ⟨rfl, rfl⟩, created, _, ⟨create, rfl⟩, done⟩ := done
  cases listed : terms.catalog.assetPair created.instrument with
  | none => simp only [listed, Work.failing_ok, refuse_ok_iff, false_and] at done
  | some pair =>
      simp only [listed, Work.bind_ok, Work.start_ok, recordEvent_ok, Work.pure_ok] at done
      obtain ⟨_, _, ⟨-, rfl⟩, _, _, insert, reserved, funds, reserve, _, _, rfl, _, _,
        announcing, _, _, announcingBalances, rfl, rfl⟩ := done
      obtain ⟨absent, untaken, rfl⟩ := Store.insertOrder_ok.mp insert
      obtain ⟨submitted, announced, rfl⟩ := announce_ok announcing
      obtain ⟨balanceRows, announcedBalances, rfl⟩ := announceBalances_ok announcingBalances
      rw [Store.announced_announced]
      exact .created create listed absent untaken reserve announced announcedBalances

/-- The new order is placed beside orders of other identifiers, and its caller has not chosen its
client order id before. -/
theorem Creates.places {command : OrderCommand}
    (creates : terms.Creates command now order store after) :
    (∃ freshId, Order.create freshId command now = .ok order) ∧ store.order? order.id = none ∧
      ¬store.ClientIdTaken order ∧ after.orders = Store.placeOrder order store.orders := by
  cases creates with
  | created create _ absent untaken reserve _ _ =>
      exact ⟨⟨_, create⟩, absent, untaken, (Funds.reserveFor_funds reserve).orders⟩

/-- The effect of moving an order to another status on the store: the order is written, its
reservation is closed with it, and the audit trail and the outbox tell of the change. -/
inductive Moves (terms : Terms) (now : Instant) (eventType : OrderEventType)
    (transition : Transition) (moved : Order) (store : Store) : Store → Prop where
  | moved {released : Option WalletBalance} {funds : Store} {details : Json}
      {reason : Option String} {orderRows balanceRows : List OutboxRow} (balanceReason : String)
      (close : (releaseIfClosed moved now).run (store.withOrder moved) = .ok (released, funds))
      (announced : terms.AnnounceOrder moved transition.before reason (funds.minted + 2) now
        orderRows)
      (announcedBalances :
        terms.AnnounceBalances released.toList balanceReason moved.id
          (funds.minted + 1 + orderRows.length + 1) now balanceRows) :
      Moves terms now eventType transition moved store
        ((funds.recorded ⟨Store.identifier (funds.minted + 1), moved.id, eventType,
          some transition.before, transition.after, details, now⟩).announced
            (orderRows ++ balanceRows))

theorem Moves.orders (moves : terms.Moves now eventType transition moved store after) :
    after.orders = Store.replaceOrder moved store.orders := by
  cases moves with
  | moved _ close _ _ => exact (releaseIfClosed_funds close).orders

theorem closeOrder_moves {status : ReservationStatus} {reason : Option String}
    {balanceReason : String} {u : Unit} (updated : moved.updatedAt = now)
    (closing : Funds.closingStatus moved.status = some status)
    (done : (terms.closeOrder moved transition status eventType reason balanceReason now).run store =
      .ok (u, after)) : terms.Moves now eventType transition moved store after := by
  simp only [closeOrder, Work.bind_ok, Store.updateOrder_ok] at done
  obtain ⟨_, _, ⟨-, rfl⟩, released, funds, release, _, _, recording, announcing⟩ := done
  obtain ⟨orderRows, announced, rfl⟩ := recordTransition_ok recording
  obtain ⟨balanceRows, announcedBalances, rfl⟩ := announceBalances_ok announcing
  rw [updated] at announced ⊢
  rw [Store.announced_announced]
  have close : (releaseIfClosed moved now).run (store.withOrder moved) = .ok (released, funds) := by
    simp only [releaseIfClosed, closing, release]
  exact .moved balanceReason close announced announcedBalances

theorem cancelOrder_cases {reason : Option String}
    (done : (terms.cancelOrder orderId account reason now).run store = .ok (moved, after)) :
    ∃ order transition, store.order? orderId = some order ∧
      order.cancel account now = .ok (transition, moved) ∧
      terms.Moves now .canceled transition moved store after := by
  simp only [cancelOrder, Work.bind_ok, Work.start_ok, Store.existingOrder_ok, Work.lift_ok,
    Work.pure_ok] at done
  obtain ⟨_, _, ⟨-, rfl⟩, order, _, ⟨found, rfl⟩, ⟨transition, canceled⟩, _, ⟨cancel, rfl⟩, _, _,
    closed, rfl, rfl⟩ := done
  refine ⟨order, transition, found, cancel, ?_⟩
  obtain ⟨-, -, rfl⟩ := Order.close_ok (Order.cancel_ok cancel).2
  exact closeOrder_moves rfl rfl closed

theorem rejectOrder_cases {reason : String}
    (done : (terms.rejectOrder orderId reason now).run store = .ok (moved, after)) :
    ∃ order transition, store.order? orderId = some order ∧
      order.reject now = .ok (transition, moved) ∧
      terms.Moves now .rejected transition moved store after := by
  simp only [rejectOrder, Work.bind_ok, Work.start_ok, Store.existingOrder_ok, Work.lift_ok,
    Work.pure_ok] at done
  obtain ⟨_, _, ⟨-, rfl⟩, order, _, ⟨found, rfl⟩, ⟨transition, rejected⟩, _, ⟨reject, rfl⟩, _, _,
    closed, rfl, rfl⟩ := done
  refine ⟨order, transition, found, reject, ?_⟩
  obtain ⟨-, -, rfl⟩ := Order.close_ok reject
  exact closeOrder_moves rfl rfl closed

/-- An order that is acknowledged gives no reservation back. -/
theorem releaseIfClosed_acknowledged (acknowledged : moved.status = .acknowledged) :
    (releaseIfClosed moved now).run store = .ok (none, store) := by
  simp only [releaseIfClosed, acknowledged, Funds.closingStatus]
  rfl

theorem acknowledgeOrder_cases {exchange exchangeOrderId : String}
    {exchangeClientOrderId : Option String} {outcome : Option Transition}
    (done : (terms.acknowledgeOrder orderId exchange exchangeOrderId exchangeClientOrderId now).run
      store = .ok (outcome, after)) :
    ∃ order moved, store.order? orderId = some order ∧
      order.acknowledge exchange exchangeOrderId exchangeClientOrderId now = .ok (outcome, moved) ∧
      (outcome = none ∧ after = store ∨ ∃ transition, outcome = some transition ∧
        terms.Moves now .acknowledged transition moved store after) := by
  simp only [acknowledgeOrder, Work.bind_ok, Work.start_ok, Store.existingOrder_ok,
    Work.lift_ok] at done
  obtain ⟨_, _, ⟨-, rfl⟩, order, _, ⟨found, rfl⟩, ⟨transition, moved⟩, _, ⟨given, rfl⟩, done⟩ := done
  cases transition with
  | none =>
      obtain ⟨rfl, rfl⟩ := Work.pure_ok.mp done
      exact ⟨order, moved, found, given, .inl ⟨rfl, rfl⟩⟩
  | some transition =>
      simp only [Work.bind_ok, Store.updateOrder_ok, Work.pure_ok] at done
      obtain ⟨_, _, ⟨-, rfl⟩, _, _, recording, rfl, rfl⟩ := done
      obtain ⟨orderRows, announced, rfl⟩ := recordTransition_ok recording
      refine ⟨order, moved, found, given, .inr ⟨transition, rfl, ?_⟩⟩
      obtain ⟨-, -, rfl⟩ := Order.acknowledge_ok given
      rw [← List.append_nil orderRows]
      exact .moved "" (releaseIfClosed_acknowledged rfl) announced .nil

theorem acknowledgeReported_cases {report : StatusReport} {outcome : ReconcileOutcome}
    (done : (terms.acknowledgeReported order report now).run store = .ok (outcome, after)) :
    ((report.exchangeOrderId = none ∨ order.status ≠ .new) ∧ outcome = .unchanged ∧
        after = store) ∨
      ∃ exchangeOrderId transition, report.exchangeOrderId = some exchangeOrderId ∧
        order.status = .new ∧ (terms.acknowledgeOrder order.id report.exchange exchangeOrderId
          report.clientOrderId now).run store = .ok (transition, after) ∧
        outcome = if transition.isSome then .applied .acknowledged else .unchanged := by
  unfold acknowledgeReported at done
  cases named : report.exchangeOrderId with
  | none =>
      simp only [named, Work.pure_ok] at done
      exact .inl ⟨.inl rfl, done.1.symm, done.2.symm⟩
  | some exchangeOrderId =>
      simp only [named, Work.run_ite] at done
      split at done
      · next known =>
          obtain ⟨rfl, rfl⟩ := Work.pure_ok.mp done
          exact .inl ⟨.inr known, rfl, rfl⟩
      · next new =>
          simp only [Work.bind_ok, Work.pure_ok] at done
          obtain ⟨transition, _, acknowledging, rfl, rfl⟩ := done
          exact .inr ⟨exchangeOrderId, transition, rfl, not_not.mp new, acknowledging, rfl⟩

theorem reconcileStatus_cases {report : StatusReport} {outcome : ReconcileOutcome}
    (done : (terms.reconcileStatus order report now).run store = .ok (outcome, after)) :
    ∃ transition moved, order.applyReportedStatus report.status now = .ok (transition, moved) ∧
      (transition = none ∧ outcome = .unchanged ∧ after = store ∨
        ∃ change, transition = some change ∧ outcome = .applied change.after ∧
          terms.Moves now .statusReconciled change moved store after) := by
  simp only [reconcileStatus, Work.bind_ok, Work.lift_ok] at done
  obtain ⟨⟨transition, moved⟩, _, ⟨applied, rfl⟩, done⟩ := done
  refine ⟨transition, moved, applied, ?_⟩
  cases transition with
  | none =>
      obtain ⟨rfl, rfl⟩ := Work.pure_ok.mp done
      exact .inl ⟨rfl, rfl, rfl⟩
  | some transition =>
      simp only [Work.bind_ok, Store.updateOrder_ok, recordEvent_ok, Work.pure_ok] at done
      obtain ⟨_, _, ⟨-, rfl⟩, released, funds, close, _, _, rfl, _, _, announcing, _, _,
        announcingBalances, rfl, rfl⟩ := done
      obtain ⟨orderRows, announced, rfl⟩ := announceOrder_ok announcing
      obtain ⟨balanceRows, announcedBalances, rfl⟩ := announceBalances_ok announcingBalances
      rw [Store.announced_announced]
      exact .inr ⟨transition, rfl, rfl, .moved _ close announced announcedBalances⟩

/-- The cases of a reported status: no order of ours matches it, it acknowledges one, or it tells of
another status. -/
theorem processStatus_cases {report : StatusReport} {outcome : ReconcileOutcome}
    (done : (terms.processStatus report now).run store = .ok (outcome, after)) :
    (store.resolveOrder? report.exchange report.exchangeOrderId report.clientOrderId = none ∧
        outcome = .unmapped ∧ after = store) ∨
      ∃ order, store.resolveOrder? report.exchange report.exchangeOrderId report.clientOrderId =
          some order ∧
        (report.status = .acknowledged ∧
            (terms.acknowledgeReported order report now).run store = .ok (outcome, after) ∨
          report.status ≠ .acknowledged ∧
            (terms.reconcileStatus order report now).run store = .ok (outcome, after)) := by
  simp only [processStatus, Work.bind_ok, Work.start_ok] at done
  obtain ⟨_, _, ⟨-, rfl⟩, done⟩ := done
  rw [← Work.bind_ok, Work.get_bind_ok] at done
  cases resolved : store.resolveOrder? report.exchange report.exchangeOrderId
      report.clientOrderId with
  | none =>
      simp only [resolved, Work.pure_ok] at done
      exact .inl ⟨rfl, done.1.symm, done.2.symm⟩
  | some order =>
      simp only [resolved, Work.run_ite, ite_eq_iff] at done
      exact .inr ⟨order, rfl, done⟩

end SpotSettlement.Terms
