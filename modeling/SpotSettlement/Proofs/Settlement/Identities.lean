import SpotSettlement.Proofs.Order.Progress
import SpotSettlement.Proofs.Settlement.Runs

namespace SpotSettlement

/-! # What is unique, and what stays

Along a run no identifier is given twice, every execution has its transaction in the ledger, and no
fill is recorded twice.  Orders are never removed, and one that is no longer new keeps the names by
which reports find it.
-/

open Decimal

namespace Store

variable {store after : Store} {filling : Option ExecutionReport} {operations : List Operation}

/-- Rows have identifiers of their own, and executions and transactions belong together. -/
structure Identified (store : Store) : Prop where
  orders : (store.orders.map (·.id)).Nodup
  reservations : store.Issued (store.reservations.map (·.id))
  executions : store.Issued (store.executions.map (·.id))
  keys : (store.executions.map (·.key)).Nodup
  booked : store.ledger.map (·.correlationId) = store.executions.map (·.id)

theorem empty_identified : ({} : Store).Identified :=
  ⟨.nil, ⟨.nil, by simp⟩, ⟨.nil, by simp⟩, .nil, rfl⟩

/-- A fill advances its order, and no other. -/
theorem fills_orders {terms : Terms} {order : Order} {report : ExecutionReport} {now : Instant}
    {outcome : IngestOutcome} (fills : terms.Fills order report now store outcome after) :
    ∃ fill moved, order.applyFill report.quantity report.reportedStatus now = .ok (fill, moved) ∧
      after.orders = replaceOrder moved store.orders ∧
      outcome = .inserted (Terms.executionOf store order report).id moved.id moved.status := by
  cases fills with
  | applied _ _ _ settle _ advance close _ _ _ _ =>
      refine ⟨_, _, advance, (Terms.releaseIfClosed_funds close).orders.trans ?_, rfl⟩
      exact congrArg _ (Funds.settleFill_funds settle).orders

/-- A step leaves the orders alone, adds a new one, or changes one of them. -/
theorem Step.orders_changes (step : store.Step filling operations after) :
    after.orders = store.orders ∨
    (∃ freshId command now order, Order.create freshId command now = .ok order ∧
      store.order? order.id = none ∧ after.orders = placeOrder order store.orders) ∨
    ∃ order ∈ store.orders, ∃ moved, order.Becomes moved ∧
      after.orders = replaceOrder moved store.orders := by
  cases step with
  | idle => exact .inl rfl
  | created create absent _ reserve _ _ =>
      exact .inr (.inl ⟨_, _, _, _, create, absent, (Funds.reserveFor_funds reserve).orders⟩)
  | moved _ member change close _ _ =>
      exact .inr (.inr ⟨_, member, _, .changed change, (Terms.releaseIfClosed_funds close).orders⟩)
  | filled resolved _ fills =>
      obtain ⟨fill, moved, advance, orders, -⟩ := fills_orders fills
      exact .inr (.inr ⟨_, Terms.resolveOrder?_mem resolved, moved, .filled advance, orders⟩)

/-- A step leaves the orders alone, adds a new one, or advances one of them. -/
theorem Step.orders_cases (step : store.Step filling operations after) :
    after.orders = store.orders ∨
    (∃ order, order.status = .new ∧ order.filled = .zero ∧ store.order? order.id = none ∧
      after.orders = placeOrder order store.orders) ∨
    ∃ order ∈ store.orders, ∃ moved, order.Advances moved ∧
      after.orders = replaceOrder moved store.orders := by
  obtain same | ⟨_, _, _, order, create, absent, placed⟩ | ⟨order, member, moved, becomes, replaced⟩ :=
    step.orders_changes
  · exact .inl same
  · obtain ⟨new, unfilled, -⟩ := Order.create_ok create
    exact .inr (.inl ⟨order, new, unfilled, absent, placed⟩)
  · exact .inr (.inr ⟨order, member, moved, becomes.advances, replaced⟩)

/-- What holds of every new order, and is kept by every change of one, is kept of all orders. -/
theorem Step.forall_orders {holds : Order → Prop} (step : store.Step filling operations after)
    (new : ∀ {freshId command now order}, Order.create freshId command now = .ok order →
      holds order)
    (kept : ∀ {order moved : Order}, order.Becomes moved → holds order → holds moved)
    (all : ∀ order ∈ store.orders, holds order) : ∀ order ∈ after.orders, holds order := by
  intro order member
  obtain same | ⟨_, _, _, placed, create, -, orders⟩ | ⟨earlier, present, moved, becomes, orders⟩ :=
    step.orders_changes
  · exact all order (same ▸ member)
  · rw [orders] at member
    obtain rfl | earlier := mem_placeOrder.mp member
    · exact new create
    · exact all order earlier
  · rw [orders] at member
    obtain ⟨earlier, -⟩ | rfl := mem_replaceOrder member
    · exact all order earlier
    · exact kept becomes (all earlier present)

theorem Step.orders_nodup (step : store.Step filling operations after)
    (unique : (store.orders.map (·.id)).Nodup) : (after.orders.map (·.id)).Nodup := by
  obtain same | ⟨order, -, -, absent, placed⟩ | ⟨order, -, moved, -, replaced⟩ :=
    step.orders_cases
  · rw [same]
    exact unique
  · rw [placed, ((placeOrder_perm order store.orders).map (·.id)).nodup_iff, List.map_cons,
      List.nodup_cons]
    refine ⟨?_, unique⟩
    -- The store was searched for the identifier before the order was placed.
    intro member
    obtain ⟨other, present, same⟩ := List.mem_map.mp member
    exact order?_none absent present same
  · rw [replaced, map_id_replaceOrder]
    exact unique

theorem hasExecution_iff {key : String × String × String} :
    store.hasExecution key = true ↔ key ∈ store.executions.map (·.key) := by
  simp [hasExecution]

/-- The table of executions grows with the ledger, or neither of them changes. -/
theorem Step.executions_cases (step : store.Step filling operations after) :
    after.executions = store.executions ∧ after.ledger = store.ledger ∨
    ∃ terms order report now outcome, filling = some report ∧
      store.resolveOrder? report.exchange report.exchangeOrderId report.clientOrderId = some order ∧
      store.hasExecution (report.exchange, report.instrument, report.tradeId) = false ∧
      Terms.Fills terms order report now store outcome after := by
  cases step with
  | idle => exact .inl ⟨rfl, rfl⟩
  | created _ _ _ reserve _ _ =>
      have funds := Funds.reserveFor_funds reserve
      exact .inl ⟨funds.executions, funds.ledger⟩
  | moved _ _ _ close _ _ =>
      have funds := Terms.releaseIfClosed_funds close
      exact .inl ⟨funds.executions, funds.ledger⟩
  | filled resolved fresh fills => exact .inr ⟨_, _, _, _, _, rfl, resolved, fresh, fills⟩

theorem fills_tables {terms : Terms} {order : Order} {report : ExecutionReport} {now : Instant}
    {outcome : IngestOutcome} (fills : terms.Fills order report now store outcome after) :
    store.minted + 1 ≤ after.minted ∧
      after.executions = store.executions ++ [Terms.executionOf store order report] ∧
      ∃ transaction, transaction.correlationId = (Terms.executionOf store order report).id ∧
        after.ledger = store.ledger ++ [transaction] := by
  cases fills with
  | applied _ _ _ settle book _ close _ _ _ _ =>
      have settled := Funds.settleFill_funds settle
      have closed := Terms.releaseIfClosed_funds close
      have correlates := congrArg LedgerTransaction.correlationId
        (LedgerTransaction.ofExecution_ok book)
      refine ⟨?_, closed.executions.trans settled.executions, _, correlates,
        closed.ledger.trans (congrArg (· ++ [_]) settled.ledger)⟩
      have first : store.minted + 1 ≤ _ := settled.minted
      have second : _ + 1 ≤ _ := closed.minted
      change _ ≤ _ + 1 + _
      omega

theorem Step.minted_le (step : store.Step filling operations after) :
    store.minted ≤ after.minted := by
  cases step with
  | idle => exact Nat.le_refl _
  | created _ _ _ reserve _ _ =>
      have bound : store.minted < store.freshOrderNumber := minted_lt_freshOrderNumber store
      have funds : store.freshOrderNumber ≤ _ := (Funds.reserveFor_funds reserve).minted
      change _ ≤ _ + 1 + _
      omega
  | moved _ _ _ close _ _ =>
      have funds : store.minted ≤ _ := (Terms.releaseIfClosed_funds close).minted
      change _ ≤ _ + 1 + _
      omega
  | filled _ _ fills => exact Nat.le_of_succ_le (fills_tables fills).1

theorem Step.reservations_issued (step : store.Step filling operations after)
    (issued : store.Issued (store.reservations.map (·.id))) :
    after.Issued (after.reservations.map (·.id)) := by
  cases step with
  | idle => exact issued
  | created _ _ _ reserve _ _ =>
      have funds := Funds.reserveFor_funds reserve
      refine (funds.issued (issued.mono (minted_lt_freshOrderNumber store).le)).mono ?_
      change _ ≤ _ + 1 + _
      omega
  | moved _ _ _ close _ _ =>
      refine ((Terms.releaseIfClosed_funds close).issued issued).mono ?_
      change _ ≤ _ + 1 + _
      omega
  | filled _ _ fills =>
      cases fills with
      | applied _ _ _ settle _ _ close _ _ _ _ =>
          have settled := (Funds.settleFill_funds settle).issued (issued.mono (Nat.le_succ _))
          have closed := (Terms.releaseIfClosed_funds close).issued (settled.mono (Nat.le_succ _))
          refine closed.mono ?_
          change _ ≤ _ + 1 + _
          omega

theorem Step.identified (step : store.Step filling operations after)
    (identified : store.Identified) : after.Identified where
  orders := step.orders_nodup identified.orders
  reservations := step.reservations_issued identified.reservations
  executions := by
    obtain ⟨same, -⟩ | ⟨_, _, _, _, _, -, -, -, fills⟩ := step.executions_cases
    · rw [same]
      exact identified.executions.mono step.minted_le
    · obtain ⟨minted, executions, -⟩ := fills_tables fills
      rw [executions, List.map_append]
      exact identified.executions.append (Nat.lt_succ_self _) minted
  keys := by
    obtain ⟨same, -⟩ | ⟨_, _, _, _, _, -, -, fresh, fills⟩ := step.executions_cases
    · rw [same]
      exact identified.keys
    · obtain ⟨-, executions, -⟩ := fills_tables fills
      rw [executions, List.map_append, List.map_singleton, List.nodup_append]
      refine ⟨identified.keys, List.nodup_singleton _, ?_⟩
      intro earlier member other new same
      rw [List.mem_singleton.mp new] at same
      rw [← Bool.not_eq_true, hasExecution_iff] at fresh
      rw [same] at member
      exact fresh member
  booked := by
    obtain ⟨executions, ledger⟩ | ⟨_, _, _, _, _, -, -, -, fills⟩ :=
      step.executions_cases
    · rw [executions, ledger]
      exact identified.booked
    · obtain ⟨-, executions, transaction, correlates, ledger⟩ := fills_tables fills
      rw [executions, ledger, List.map_append, List.map_append, identified.booked,
        List.map_singleton, List.map_singleton, correlates]

theorem Identified.withBalances (balances : List WalletBalance) (identified : store.Identified) :
    ({ store with balances } : Store).Identified :=
  ⟨identified.orders, identified.reservations, identified.executions, identified.keys,
    identified.booked⟩

theorem afterAll_identified (identified : store.Identified) (run : List Request) :
    (store.afterAll run).Identified := by
  refine afterAll_induction Identified identified ?_
  intro request _ store identified
  exact apply_induction Identified request identified Identified.withBalances Step.identified

theorem apply_forall_orders {holds : Order → Prop}
    (new : ∀ {freshId command now order}, Order.create freshId command now = .ok order →
      holds order)
    (kept : ∀ {order moved : Order}, order.Becomes moved → holds order → holds moved)
    (request : Request) (all : ∀ order ∈ store.orders, holds order) :
    ∀ order ∈ (request.apply store).orders, holds order :=
  apply_induction (∀ order ∈ ·.orders, holds order) request all (fun _ all => all)
    fun step all => step.forall_orders new kept all

theorem reached_forall_orders {holds : Order → Prop}
    (new : ∀ {freshId command now order}, Order.create freshId command now = .ok order →
      holds order)
    (kept : ∀ {order moved : Order}, order.Becomes moved → holds order → holds moved)
    (run : List Request) : ∀ order ∈ (reached run).orders, holds order :=
  afterAll_induction (∀ order ∈ ·.orders, holds order) (List.forall_mem_nil _)
    fun request _ _ all => apply_forall_orders new kept request all

theorem Step.unitOutage (step : store.Step filling operations after) :
    after.unitOutage = store.unitOutage := by
  cases step with
  | idle => rfl
  | created _ _ _ reserve _ _ => exact (Funds.reserveFor_funds reserve).unitOutage
  | moved _ _ _ close _ _ => exact (Terms.releaseIfClosed_funds close).unitOutage
  | filled _ _ fills =>
      cases fills with
      | applied _ _ _ settle _ _ close _ _ _ _ =>
          exact (Terms.releaseIfClosed_funds close).unitOutage.trans
            (Funds.settleFill_funds settle).unitOutage

end Store

/-- Whether a report with these names is about the order. -/
def Order.GoesBy (order : Order) (exchange : String)
    (exchangeOrderId clientOrderId : Option String) : Prop :=
  order.exchange = exchange ∧
    ((∃ id, exchangeOrderId = some id ∧ order.exchangeOrderId = some id) ∨
      ∃ id, clientOrderId = some id ∧
        (order.exchangeClientOrderId = some id ∨ order.outboundClientOrderId = id))

variable {exchange : String} {exchangeOrderId clientOrderId : Option String} {order moved : Order}

theorem Order.Advances.goesBy (advances : order.Advances moved) (settled : order.status ≠ .new)
    (named : order.GoesBy exchange exchangeOrderId clientOrderId) :
    moved.GoesBy exchange exchangeOrderId clientOrderId := by
  obtain ⟨sameExchange, sameId, sameClientId⟩ := advances.named settled
  unfold GoesBy at *
  rw [sameExchange, sameId, sameClientId, advances.outboundClientOrderId]
  exact named

namespace Store

variable {store after : Store} {filling : Option ExecutionReport} {operations : List Operation}

theorem resolveOrder?_goesBy
    (resolved : store.resolveOrder? exchange exchangeOrderId clientOrderId = some order) :
    order.GoesBy exchange exchangeOrderId clientOrderId := by
  obtain found | ⟨-, found⟩ := Option.or_eq_some_iff.mp resolved
  · obtain ⟨id, named, found⟩ := Option.bind_eq_some_iff.mp found
    obtain ⟨-, here, number⟩ := orderByExchangeId?_some found
    exact ⟨here, .inl ⟨id, named, number⟩⟩
  · obtain ⟨id, named, found⟩ := Option.bind_eq_some_iff.mp found
    have holds := List.find?_some found
    simp only [Bool.and_eq_true, Bool.or_eq_true, beq_iff_eq] at holds
    exact ⟨holds.1, .inr ⟨id, named, holds.2⟩⟩

theorem resolveOrder?_isSome (member : order ∈ store.orders)
    (named : order.GoesBy exchange exchangeOrderId clientOrderId) :
    ∃ found, store.resolveOrder? exchange exchangeOrderId clientOrderId = some found := by
  rw [← Option.isSome_iff_exists, resolveOrder?, Option.isSome_or]
  obtain ⟨rfl, ⟨id, rfl, same⟩ | ⟨id, rfl, same⟩⟩ := named
  · have found : (store.orderByExchangeId? order.exchange id).isSome = true :=
      List.find?_isSome.mpr ⟨order, member, by simp [same]⟩
    simp [found]
  · have found : (store.orderByClientId? order.exchange id).isSome = true :=
      List.find?_isSome.mpr ⟨order, member, by simp [same]⟩
    simp [found]

/-- A report with these names finds an order that keeps them. -/
def Finds (store : Store) (exchange : String) (exchangeOrderId clientOrderId : Option String) :
    Prop :=
  ∃ order ∈ store.orders, order.status ≠ .new ∧
    order.GoesBy exchange exchangeOrderId clientOrderId

theorem Step.finds (step : store.Step filling operations after)
    (unique : (store.orders.map (·.id)).Nodup)
    (finds : store.Finds exchange exchangeOrderId clientOrderId) :
    after.Finds exchange exchangeOrderId clientOrderId := by
  obtain ⟨order, member, settled, named⟩ := finds
  obtain same | ⟨created, -, -, -, placed⟩ | ⟨other, present, moved, advances, replaced⟩ :=
    step.orders_cases
  · exact ⟨order, same ▸ member, settled, named⟩
  · exact ⟨order, placed ▸ mem_placeOrder.mpr (.inr member), settled, named⟩
  · -- An order that advances has been acknowledged or closed, so its names are settled.
    by_cases same : order.id = moved.id
    · have which : order = other :=
        List.inj_on_of_nodup_map unique member present (same.trans advances.id)
      subst which
      exact ⟨moved, replaced ▸ mem_replaceOrder_self member same,
        OrderStatus.ne_new_of_canBecome advances.legal, advances.goesBy settled named⟩
    · exact ⟨order, replaced ▸ mem_replaceOrder_of_ne member same, settled, named⟩

end Store

end SpotSettlement
