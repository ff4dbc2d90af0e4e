import SpotSettlement.Proofs.Settlement.Lifecycle

namespace SpotSettlement

/-! # What a call of settlement does to the store

A call that succeeds creates an order, moves one to another status, applies a fill, or does nothing.
Here each of these is one step, with everything that it read and wrote and the arithmetic that it
did; every later statement about calls is about the steps.  Where it matters under which terms the
call was made, the statement is about the effect of the call, which keeps them.
-/

open Decimal

/-- A step that a call takes the store, with the report of the call if it may apply a fill, and the
arithmetic of it. -/
inductive Store.Step (store : Store) :
    Option ExecutionReport → List Operation → Store → Prop where
  | idle (filling : Option ExecutionReport) (operations : List Operation) :
      Step store filling operations store
  | created {terms : Terms} {command : OrderCommand} {now : Instant} {order : Order}
      {pair : AssetPair} {reserved : Option WalletBalance} {funds : Store} {details : Json}
      {submitted : OutboxRow} {balanceRows : List OutboxRow}
      (create : Order.create (identifier store.freshOrderNumber) command now = .ok order)
      (absent : store.order? order.id = none) (untaken : ¬store.ClientIdTaken order)
      (reserve : (Funds.reserveFor order pair now).run (store.withNewOrder order) =
        .ok (reserved, funds))
      (announced : submitted.Announces terms (OrderSubmitted.ofOrder order) (funds.minted + 2) now)
      (announcedBalances :
        terms.AnnounceBalances reserved.toList "ORDER_RESERVED" order.id (funds.minted + 3) now
          balanceRows) :
      Step store none (Funds.reserveArithmetic order pair (store.withNewOrder order) now)
        ((funds.recorded ⟨identifier (funds.minted + 1), order.id, .created, none, .new, details,
          now⟩).announced ([submitted] ++ balanceRows))
  | moved {terms : Terms} {now : Instant} {order moved : Order} {eventType : OrderEventType}
      {transition : Transition} {released : Option WalletBalance} {funds : Store} {details : Json}
      {reason : Option String} {orderRows balanceRows : List OutboxRow} (balanceReason : String)
      (member : order ∈ store.orders) (change : order.Change now eventType transition moved)
      (close : (Terms.releaseIfClosed moved now).run (store.withOrder moved) =
        .ok (released, funds))
      (announced : terms.AnnounceOrder moved transition.before reason (funds.minted + 2) now
        orderRows)
      (announcedBalances :
        terms.AnnounceBalances released.toList balanceReason moved.id
          (funds.minted + 1 + orderRows.length + 1) now balanceRows) :
      Step store none (Terms.closingArithmetic moved (store.withOrder moved) now)
        ((funds.recorded ⟨identifier (funds.minted + 1), moved.id, eventType,
          some transition.before, transition.after, details, now⟩).announced
            (orderRows ++ balanceRows))
  | filled {terms : Terms} {order : Order} {report : ExecutionReport} {now : Instant}
      {outcome : IngestOutcome} {after : Store}
      (resolved : store.resolveOrder? report.exchange report.exchangeOrderId
        report.clientOrderId = some order)
      (fresh : store.hasExecution (report.exchange, report.instrument, report.tradeId) = false)
      (fills : terms.Fills order report now store outcome after) :
      Step store (some report) (terms.fillArithmetic order report store now) after

def Terms.createArithmetic (terms : Terms) (command : OrderCommand) (store : Store) (now : Instant) :
    List Operation :=
  match Order.create (Store.identifier store.freshOrderNumber) command now with
  | .error _ => []
  | .ok order =>
    match terms.catalog.assetPair order.instrument,
      (Store.insertOrder order).run { store with minted := store.freshOrderNumber } with
    | some pair, .ok (_, inserted) => Funds.reserveArithmetic order pair inserted now
    | _, _ => []

/-- What a call under the given terms does to the store, with the report of the call if it may apply
a fill, and the arithmetic of it. -/
inductive Terms.Effect (terms : Terms) (now : Instant) (store : Store) :
    Option ExecutionReport → List Operation → Store → Prop where
  | idle (filling : Option ExecutionReport) (operations : List Operation) :
      Effect terms now store filling operations store
  | created {command : OrderCommand} {order : Order} {after : Store}
      (creates : terms.Creates command now order store after) :
      Effect terms now store none (terms.createArithmetic command store now) after
  | moved {order moved : Order} {eventType : OrderEventType} {transition : Transition}
      {after : Store} (member : order ∈ store.orders)
      (change : order.Change now eventType transition moved)
      (moves : terms.Moves now eventType transition moved store after) :
      Effect terms now store none (closingArithmetic moved (store.withOrder moved) now) after
  | filled {report : ExecutionReport} {order : Order} {outcome : IngestOutcome} {after : Store}
      (valid : report.validate = .ok ())
      (resolved : store.resolveOrder? report.exchange report.exchangeOrderId
        report.clientOrderId = some order)
      (fresh : store.hasExecution (report.exchange, report.instrument, report.tradeId) = false)
      (fills : terms.Fills order report now store outcome after) :
      Effect terms now store (some report) (terms.fillArithmetic order report store now) after

namespace Terms

variable {terms : Terms} {store after : Store} {order moved : Order} {now : Instant}
  {orderId account : String} {transition : Transition}

/-- The arithmetic of an order that is created is that of its reservation. -/
theorem createArithmetic_eq {command : OrderCommand} {pair : AssetPair}
    (create : Order.create (Store.identifier store.freshOrderNumber) command now = .ok order)
    (listed : terms.catalog.assetPair order.instrument = some pair)
    (absent : store.order? order.id = none) (untaken : ¬store.ClientIdTaken order) :
    terms.createArithmetic command store now =
      Funds.reserveArithmetic order pair (store.withNewOrder order) now := by
  have insert : (Store.insertOrder order).run
      { store with minted := store.freshOrderNumber } = .ok ((), store.withNewOrder order) :=
    Store.insertOrder_ok.mpr ⟨absent, untaken, rfl⟩
  simp only [createArithmetic, create, listed, insert]

def closeArithmetic (order : Option Order) (attempt : Order → Except OrderError (Transition × Order))
    (store : Store) (now : Instant) : List Operation :=
  match order.map attempt with
  | some (.ok (_, moved)) => closingArithmetic moved (store.withOrder moved) now
  | _ => []

theorem cancelOrder_effect {reason : Option String}
    (done : (terms.cancelOrder orderId account reason now).run store = .ok (moved, after)) :
    terms.Effect now store none
      (closeArithmetic (store.order? orderId) (·.cancel account now) store now) after := by
  obtain ⟨order, transition, found, cancel, moves⟩ := cancelOrder_cases done
  simp only [closeArithmetic, found, Option.map_some, cancel]
  exact .moved (Store.order?_some found).1 (.canceled cancel) moves

theorem rejectOrder_effect {reason : String}
    (done : (terms.rejectOrder orderId reason now).run store = .ok (moved, after)) :
    terms.Effect now store none
      (closeArithmetic (store.order? orderId) (·.reject now) store now) after := by
  obtain ⟨order, transition, found, reject, moves⟩ := rejectOrder_cases done
  simp only [closeArithmetic, found, Option.map_some, reject]
  exact .moved (Store.order?_some found).1 (.rejected reject) moves

/-- An acknowledgement does no arithmetic. -/
theorem acknowledgeOrder_effect {exchange exchangeOrderId : String}
    {exchangeClientOrderId : Option String} {outcome : Option Transition}
    (done : (terms.acknowledgeOrder orderId exchange exchangeOrderId exchangeClientOrderId now).run
      store = .ok (outcome, after)) : terms.Effect now store none [] after := by
  obtain ⟨order, moved, found, given, ⟨-, rfl⟩ | ⟨transition, rfl, moves⟩⟩ :=
    acknowledgeOrder_cases done
  · exact .idle none []
  · have effect := Effect.moved (Store.order?_some found).1 (.acknowledged given) moves
    obtain ⟨-, -, rfl⟩ := Order.acknowledge_ok given
    exact effect

def statusArithmetic (order : Option Order) (report : StatusReport) (store : Store)
    (now : Instant) : List Operation :=
  match order with
  | none => []
  | some order =>
    if report.status = .acknowledged then []
    else
      match order.applyReportedStatus report.status now with
      | .ok (some _, moved) => closingArithmetic moved (store.withOrder moved) now
      | _ => []

theorem resolveOrder?_mem {exchange : String} {exchangeOrderId clientOrderId : Option String}
    (resolved : store.resolveOrder? exchange exchangeOrderId clientOrderId = some order) :
    order ∈ store.orders := by
  obtain found | ⟨-, found⟩ := Option.or_eq_some_iff.mp resolved
  · obtain ⟨id, -, found⟩ := Option.bind_eq_some_iff.mp found
    exact List.mem_of_find?_eq_some found
  · obtain ⟨id, -, found⟩ := Option.bind_eq_some_iff.mp found
    exact List.mem_of_find?_eq_some found

theorem processStatus_effect {report : StatusReport} {outcome : ReconcileOutcome}
    (done : (terms.processStatus report now).run store = .ok (outcome, after)) :
    terms.Effect now store none (statusArithmetic (store.resolveOrder? report.exchange
      report.exchangeOrderId report.clientOrderId) report store now) after := by
  obtain ⟨-, -, rfl⟩ | ⟨order, resolved, ⟨acknowledged, done⟩ | ⟨other, done⟩⟩ :=
    processStatus_cases done
  · exact .idle _ _
  · rw [resolved, statusArithmetic, if_pos acknowledged]
    obtain ⟨-, -, rfl⟩ | ⟨exchangeOrderId, transition, -, -, done, -⟩ :=
      acknowledgeReported_cases done
    · exact .idle _ _
    · exact acknowledgeOrder_effect done
  · obtain ⟨transition, moved, applied, ⟨-, -, rfl⟩ | ⟨change, rfl, -, moves⟩⟩ :=
      reconcileStatus_cases done
    · exact .idle _ _
    · rw [resolved, statusArithmetic, if_neg other, applied]
      exact .moved (resolveOrder?_mem resolved) (.reported other applied) moves

/-- What is done with a valid report depends on the order that it finds. -/
theorem processFill_run {report : ExecutionReport} (terms : Terms) (now : Instant)
    (valid : report.validate = .ok ()) (available : store.unitOutage = none) :
    (terms.processFill report now).run store =
      ((store.resolveOrder? report.exchange report.exchangeOrderId report.clientOrderId).elim
        (pure .unmapped) fun order =>
          if store.hasExecution (report.exchange, report.instrument, report.tradeId) then
            pure .duplicate
          else terms.applyFill order report now).run store := by
  have validated : (liftM report.validate : Work Unit).run store = .ok ((), store) :=
    Work.lift_ok.mpr ⟨valid, rfl⟩
  have begins : Work.start.run store = .ok ((), store) := Work.start_ok.mpr ⟨available, rfl⟩
  rw [processFill, Work.run_bind_of_ok validated, Work.run_bind_of_ok begins, StateT.run_bind,
    StateT.run_get, pure_bind]
  dsimp only
  cases store.resolveOrder? report.exchange report.exchangeOrderId report.clientOrderId <;> rfl

/-- The cases of a reported fill: no order of ours matches it, it is recorded already, or it is
applied. -/
theorem processFill_cases {report : ExecutionReport} {outcome : IngestOutcome}
    (done : (terms.processFill report now).run store = .ok (outcome, after)) :
    report.validate = .ok () ∧ store.unitOutage = none ∧
      ((store.resolveOrder? report.exchange report.exchangeOrderId report.clientOrderId = none ∧
          outcome = .unmapped ∧ after = store) ∨
        ∃ order, store.resolveOrder? report.exchange report.exchangeOrderId
            report.clientOrderId = some order ∧
          (store.hasExecution (report.exchange, report.instrument, report.tradeId) = true ∧
              outcome = .duplicate ∧ after = store ∨
            store.hasExecution (report.exchange, report.instrument, report.tradeId) = false ∧
              terms.Fills order report now store outcome after)) := by
  simp only [processFill, Work.bind_ok, Work.lift_ok, Work.start_ok] at done
  obtain ⟨_, _, ⟨valid, rfl⟩, _, _, ⟨available, rfl⟩, done⟩ := done
  refine ⟨valid, available, ?_⟩
  rw [← Work.bind_ok, Work.get_bind_ok] at done
  cases resolved : store.resolveOrder? report.exchange report.exchangeOrderId
      report.clientOrderId with
  | none =>
      simp only [resolved, Work.pure_ok] at done
      exact .inl ⟨rfl, done.1.symm, done.2.symm⟩
  | some order =>
      refine .inr ⟨order, rfl, ?_⟩
      simp only [resolved, Work.run_ite, ite_eq_iff, Work.pure_ok] at done
      obtain ⟨recorded, rfl, rfl⟩ | ⟨fresh, applying⟩ := done
      · exact .inl ⟨recorded, rfl, rfl⟩
      · exact .inr ⟨by simpa using fresh, applyFill_fills applying⟩

def reportArithmetic (terms : Terms) (report : ExecutionReport) (store : Store) (now : Instant) :
    List Operation :=
  match report.validate,
    store.resolveOrder? report.exchange report.exchangeOrderId report.clientOrderId with
  | .ok _, some order =>
    if store.hasExecution (report.exchange, report.instrument, report.tradeId) then []
    else terms.fillArithmetic order report store now
  | _, _ => []

theorem reportArithmetic_eq {report : ExecutionReport} (valid : report.validate = .ok ())
    (resolved : store.resolveOrder? report.exchange report.exchangeOrderId report.clientOrderId =
      some order)
    (fresh : store.hasExecution (report.exchange, report.instrument, report.tradeId) = false) :
    terms.reportArithmetic report store now = terms.fillArithmetic order report store now := by
  simp only [reportArithmetic, valid, resolved, fresh, Bool.false_eq_true, if_false]

theorem processFill_effect {report : ExecutionReport} {outcome : IngestOutcome}
    (done : (terms.processFill report now).run store = .ok (outcome, after)) :
    terms.Effect now store (some report) (terms.reportArithmetic report store now) after := by
  obtain ⟨valid, -, ⟨-, -, rfl⟩ | ⟨order, resolved, ⟨-, -, rfl⟩ | ⟨fresh, fills⟩⟩⟩ :=
    processFill_cases done
  · exact .idle _ _
  · exact .idle _ _
  · rw [reportArithmetic_eq valid resolved fresh]
    exact .filled valid resolved fresh fills

variable {filling : Option ExecutionReport} {operations : List Operation}

theorem Effect.step (effect : terms.Effect now store filling operations after) :
    store.Step filling operations after := by
  cases effect with
  | idle => exact .idle filling operations
  | created creates =>
      cases creates with
      | created create listed absent untaken reserve announced announcedBalances =>
          rw [createArithmetic_eq create listed absent untaken]
          exact .created create absent untaken reserve announced announcedBalances
  | moved member change moves =>
      cases moves with
      | moved balanceReason close announced announcedBalances =>
          exact .moved balanceReason member change close announced announcedBalances
  | filled _ resolved fresh fills => exact .filled resolved fresh fills

end Terms

end SpotSettlement
