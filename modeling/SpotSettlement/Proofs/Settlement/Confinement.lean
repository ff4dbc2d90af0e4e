import SpotSettlement.Proofs.Settlement.Closing
import SpotSettlement.Proofs.Settlement.Coverage

namespace SpotSettlement

/-! # What a call leaves alone

A call about an order writes the row of this order, its reservations, and balances of its account.
What the call releases or settles it finds in reservations and reports, not in the order; that these
are of the account of the order is what the reservations of a run guarantee.  The rows that record
what has happened are only added to.
-/

open Decimal

namespace Store

variable {store middle after : Store} {order : Order} {asset : String} {balance : WalletBalance}
  {reservation : WalletReservation}

/-- From one store to the other only one order changes, with its reservations and the balances of
its account, and records only come in behind those that were there. -/
structure Confined (store after : Store) (order : Order) : Prop where
  orders : after.orders.filter (·.id != order.id) = store.orders.filter (·.id != order.id)
  reservations : after.reservations.filter (·.orderId != order.id) =
    store.reservations.filter (·.orderId != order.id)
  balances : after.balances.filter (·.account != order.account) =
    store.balances.filter (·.account != order.account)
  executions : store.executions <+: after.executions
  ledger : store.ledger <+: after.ledger
  orderEvents : store.orderEvents <+: after.orderEvents
  outbox : store.outbox <+: after.outbox

theorem Confined.refl (store : Store) (order : Order) : store.Confined store order :=
  ⟨rfl, rfl, rfl, List.prefix_rfl, List.prefix_rfl, List.prefix_rfl, List.prefix_rfl⟩

theorem Confined.trans (first : store.Confined middle order)
    (second : middle.Confined after order) : store.Confined after order where
  orders := second.orders.trans first.orders
  reservations := second.reservations.trans first.reservations
  balances := second.balances.trans first.balances
  executions := first.executions.trans second.executions
  ledger := first.ledger.trans second.ledger
  orderEvents := first.orderEvents.trans second.orderEvents
  outbox := first.outbox.trans second.outbox

/-- A selection that leaves out the balance, and with it the one that it takes the place of, does
not see the write. -/
theorem filter_putBalance {selects : WalletBalance → Bool}
    (leftOut : ∀ other : WalletBalance,
      other.account = balance.account ∧ other.asset = balance.asset → selects other = false)
    (balances : List WalletBalance) :
    (putBalance balance balances).filter selects = balances.filter selects := by
  have self := leftOut balance ⟨rfl, rfl⟩
  induction balances with
  | nil => simp [putBalance, self]
  | cons row rest ih =>
      rw [putBalance]
      split
      · next same =>
          rw [Bool.and_eq_true, beq_iff_eq, beq_iff_eq] at same
          rw [List.filter_cons_of_neg (by simp [self]),
            List.filter_cons_of_neg (by simp [leftOut row same])]
      · rw [List.filter_cons, List.filter_cons, ih]

theorem withBalance_confined (store : Store) (owner : balance.account = order.account) :
    store.Confined (store.withBalance balance) order :=
  { Confined.refl store order with
    balances := filter_putBalance (fun other same => by simp [same.1, owner]) store.balances }

theorem withReservation_confined {drawn : WalletReservation}
    (unique : (store.reservations.map (·.id)).Nodup) (member : reservation ∈ store.reservations)
    (sameId : drawn.id = reservation.id) (sameOrder : drawn.orderId = reservation.orderId)
    (owner : reservation.orderId = order.id) :
    store.Confined (store.withReservation drawn) order := by
  have found := find?_reservation_of_mem unique member
  rw [← sameId] at found
  have written := filter_putReservation (p := (·.orderId != order.id)) (by simp [sameOrder]) found
  rw [if_neg (by simp [owner])] at written
  exact { Confined.refl store order with reservations := written }

theorem withOrder_confined (store : Store) {moved : Order} (same : moved.id = order.id) :
    store.Confined (store.withOrder moved) order := by
  refine { Confined.refl store order with orders := ?_ }
  rw [withOrder, replaceOrder]
  induction store.orders with
  | nil => rfl
  | cons row rest ih =>
      rw [List.map_cons, List.filter_cons, List.filter_cons, ih]
      by_cases here : row.id = order.id <;> simp [here, same]

theorem withExecution_confined (store : Store) (execution : Execution) (order : Order) :
    store.Confined (store.withExecution execution) order :=
  { Confined.refl store order with executions := List.prefix_append .. }

theorem withTransaction_confined (store : Store) (transaction : LedgerTransaction) (order : Order) :
    store.Confined (store.withTransaction transaction) order :=
  { Confined.refl store order with ledger := List.prefix_append .. }

theorem recorded_announced_confined (store : Store) (event : OrderEvent) (rows : List OutboxRow)
    (order : Order) : store.Confined ((store.recorded event).announced rows) order :=
  { Confined.refl store order with
    orderEvents := List.prefix_append ..
    outbox := List.prefix_append .. }

/-- Every balance is worth what it was worth, and none has come in or gone. -/
def KeepsWorth (store after : Store) : Prop :=
  ∀ account asset, (after.balance? account asset).map (·.worth) =
    (store.balance? account asset).map (·.worth)

theorem KeepsWorth.of_same_balances (same : after.balances = store.balances) :
    store.KeepsWorth after := by
  intro account asset
  rw [balance?, same, balance?]

end Store

namespace Funds

variable {store after : Store} {order : Order} {pair : AssetPair} {now : Instant}
  {outcome : Option WalletBalance} {status : ReservationStatus} {deltas : AssetTotals}
  {progress next : Progress} {balances : List WalletBalance}

theorem settleAll_confined
    (done : (deltas.foldlM (settleDelta order.account now) progress).run store =
      .ok (next, after)) : store.Confined after order := by
  induction deltas generalizing store progress with
  | nil =>
      obtain ⟨rfl, rfl⟩ := Work.pure_ok.mp done
      exact .refl store order
  | cons delta rest ih =>
      rw [List.foldlM_cons, Work.bind_ok] at done
      obtain ⟨midway, middle, first, others⟩ := done
      obtain ⟨settled, moved, rfl, -⟩ := settleDelta_cases first
      have settles := WalletBalance.applyDelta_settles moved
      have key := store.balanceOf_key order.account delta.1 now
      exact (store.withBalance_confined (settles.account.trans key.1)).trans (ih others)

theorem settleFill_confined (unique : (store.reservations.map (·.id)).Nodup)
    (done : (settleFill order.account order.id deltas now).run store = .ok (balances, after)) :
    store.Confined after order := by
  obtain ⟨next, middle, settling, -, saved⟩ := settleFill_cases done
  have settled := settleAll_confined settling
  have advance := settleAll_advance settling
  obtain ⟨-, rfl⟩ | ⟨drawn, reservation, rfl⟩ := saved
  · exact settled
  · have related := advance.drawn
    rw [reservation] at related
    cases active : store.activeReservation? order.id with
    | none => rw [active] at related; contradiction
    | some held =>
        rw [active] at related
        obtain ⟨kept⟩ := related
        obtain ⟨member, owner, -⟩ := Store.activeReservation?_some active
        have tables : middle.reservations = store.reservations := by rw [advance.tables]
        rw [← tables] at unique member
        exact settled.trans (Store.withReservation_confined unique member kept.id kept.orderId owner)

theorem releaseFor_confined (unique : (store.reservations.map (·.id)).Nodup)
    (covered : Covered store order.id order.account)
    (done : (releaseFor order.id status now).run store = .ok (outcome, after)) :
    store.Confined after order := by
  obtain ⟨-, -, rfl⟩ | ⟨held, balance, active, -, released, rfl⟩ := releaseFor_cases done
  · exact .refl after order
  · obtain ⟨member, owner, -⟩ := Store.activeReservation?_some active
    have given : GivenBack store held now balance := released
    have paid := store.withBalance_confined (given.key.1.trans (covered held active).1)
    have closed : (store.withBalance balance).Confined ((store.withBalance balance).withReservation
        { held with amount := .zero, status, updatedAt := now }) order :=
      Store.withReservation_confined unique member rfl rfl owner
    exact paid.trans closed

/-- Giving back moves funds within one balance. -/
theorem releaseFor_keepsWorth {orderId : String}
    (done : (releaseFor orderId status now).run store = .ok (outcome, after))
    (exact : Exact (releaseArithmetic orderId store now))
    (covered : ∀ held, store.activeReservation? orderId = some held →
      0 ≤ held.amount.value ∧ store.Returnable held) : store.KeepsWorth after := by
  obtain ⟨returned, untouched⟩ := releaseFor_returns done exact covered
  intro account asset
  cases active : store.activeReservation? orderId with
  | none =>
      rw [untouched account asset fun held found => absurd (active.symm.trans found) nofun]
  | some held =>
      by_cases here : held.account = account ∧ held.asset = asset
      · obtain ⟨before, later, was, is, available, reserved⟩ := returned held active
        rw [here.1, here.2] at was is
        rw [was, is, Option.map_some, Option.map_some, WalletBalance.worth, WalletBalance.worth,
          available, reserved]
        ring_nf
      · rw [untouched account asset fun other found =>
          Option.some.inj (active.symm.trans found) ▸ here]

theorem requirement_asset {required : String} {amount : Decimal}
    (requires : order.reservationRequirement pair = .ok (some (required, amount))) :
    required = order.reservedAsset pair := by
  unfold Order.reservationRequirement at requires
  unfold Order.reservedAsset
  split at requires
  · next side price =>
      simp only [bind_ok_iff, pure_ok_iff, Option.some.injEq, Prod.mk.injEq] at requires
      obtain ⟨notional, -, rfl, -⟩ := requires
      rw [side]
  · cases requires
  · next side =>
      cases requires
      rw [side]

/-- Reserving moves funds within one balance, which is there already as it has what is reserved. -/
theorem reserveFor_keepsWorth (exact : Exact (reserveArithmetic order pair store now))
    (done : (reserveFor order pair now).run store = .ok (outcome, after)) :
    store.KeepsWorth after := by
  obtain ⟨-, -, rfl⟩ | ⟨asset, amount, balance, required, reserved, -, rfl⟩ := reserveFor_cases done
  · exact .of_same_balances rfl
  · rw [reserveArithmetic, exact_append_iff, required] at exact
    obtain ⟨available, taken⟩ := WalletBalance.reserve_exact exact.2 reserved
    obtain ⟨positive, enough, _, -, _, -, same⟩ := WalletBalance.reserve_ok.mp reserved
    have keys := store.balanceOf_key order.account asset now
    have key : balance.account = order.account ∧ balance.asset = asset := by
      rw [← same]
      exact keys
    have worth : balance.worth = (store.balanceOf order.account asset now).worth := by
      rw [WalletBalance.worth, available, taken, WalletBalance.worth]
      ring
    intro account other
    change ((store.withBalance balance).balance? account other).map _ = _
    rw [Store.balance?_withBalance, key.1, key.2]
    by_cases here : order.account = account ∧ asset = other
    · obtain ⟨rfl, rfl⟩ := here
      rw [if_pos ⟨rfl, rfl⟩, Option.map_some, worth, Store.balanceOf]
      cases row : store.balance? order.account asset with
      | some before => rfl
      | none =>
          -- Nothing is available in a balance that is not there.
          rw [Store.balanceOf, row] at enough
          exact absurd (enough.trans_eq value_zero) positive.not_ge
    · rw [if_neg here]

end Funds

namespace Terms

variable {terms : Terms} {store after : Store} {order moved : Order} {now : Instant}
  {released : Option WalletBalance} {eventType : OrderEventType} {transition : Transition}
  {report : ExecutionReport} {outcome : IngestOutcome}

theorem releaseIfClosed_confined
    (done : (releaseIfClosed order now).run store = .ok (released, after))
    (unique : (store.reservations.map (·.id)).Nodup)
    (covered : Funds.Covered store order.id order.account) : store.Confined after order := by
  obtain ⟨-, -, rfl⟩ | ⟨status, -, release⟩ := releaseIfClosed_cases done
  · exact .refl after order
  · exact Funds.releaseFor_confined unique covered release

theorem releaseIfClosed_keepsWorth
    (done : (releaseIfClosed order now).run store = .ok (released, after))
    (exact : Exact (closingArithmetic order store now))
    (covered : ∀ held, store.activeReservation? order.id = some held →
      0 ≤ held.amount.value ∧ store.Returnable held) : store.KeepsWorth after := by
  obtain ⟨-, -, rfl⟩ | ⟨status, closing, release⟩ := releaseIfClosed_cases done
  · exact .of_same_balances rfl
  · rw [closingArithmetic, closing, Option.isSome_some, if_pos rfl] at exact
    exact Funds.releaseFor_keepsWorth release exact covered

/-- What confines the order after its change confines the order before it. -/
theorem confined_of_advances (advances : order.Advances moved) (confined : store.Confined after moved) :
    store.Confined after order := by
  obtain ⟨orders, reservations, balances, executions, ledger, orderEvents, outbox⟩ := confined
  rw [advances.id] at orders reservations
  rw [advances.account] at balances
  exact ⟨orders, reservations, balances, executions, ledger, orderEvents, outbox⟩

theorem Moves.confined (moves : terms.Moves now eventType transition moved store after)
    (advances : order.Advances moved) (unique : (store.reservations.map (·.id)).Nodup)
    (backed : order.BackedBy (store.reservationsOf order.id)) : store.Confined after order := by
  cases moves with
  | moved _ close _ _ =>
      have covered : Funds.Covered (store.withOrder moved) moved.id moved.account :=
        advances.id ▸ advances.account ▸ backed.covered
      have written : store.Confined (store.withOrder moved) moved := store.withOrder_confined rfl
      have closed := releaseIfClosed_confined close unique covered
      exact confined_of_advances advances ((written.trans closed).trans
        (Store.recorded_announced_confined ..))

theorem Fills.confined (fills : terms.Fills order report now store outcome after)
    (issued : store.Issued (store.reservations.map (·.id)))
    (backed : order.BackedBy (store.reservationsOf order.id)) : store.Confined after order := by
  cases fills with
  | @applied _ _ _ _ settled transaction _ moved _ closed _ _ _ _ _ _ _ settle _ advance close _ _ _ _ =>
      have advances := Order.applyFill_advances advance
      have unique := ((Funds.settleFill_funds settle).issued (issued.mono (Nat.le_succ _))).1
      -- What is left of the reservation after the fill is still of the account of the order.
      have drawn := Funds.settleFill_backs settle issued.1 backed
      have covered : Funds.Covered ((settled.withTransaction transaction).withOrder moved) moved.id
          moved.account := advances.id ▸ advances.account ▸ drawn.backed.covered
      have paid := (store.withExecution_confined _ order).trans
        (Funds.settleFill_confined issued.1 settle)
      have booked := (settled.withTransaction_confined transaction order).trans
        (Store.withOrder_confined _ advances.id)
      have returned := confined_of_advances advances (releaseIfClosed_confined close unique covered)
      exact ((paid.trans booked).trans returned).trans (Store.recorded_announced_confined ..)

end Terms

namespace Call

variable {call : Call} {terms : Terms} {now : Instant} {store : Store} {order : Order}

/-- The order that a call is about, as far as there is one in the store. -/
def order? (call : Call) (store : Store) : Option Order :=
  match call with
  | .create _ => none
  | .acknowledge orderId .. | .cancel orderId .. | .reject orderId _ => store.order? orderId
  | .fill report =>
    store.resolveOrder? report.exchange report.exchangeOrderId report.clientOrderId
  | .status report =>
    store.resolveOrder? report.exchange report.exchangeOrderId report.clientOrderId

theorem order?_mem (about : call.order? store = some order) : order ∈ store.orders := by
  cases call with
  | create command => contradiction
  | acknowledge orderId _ _ _ => exact (Store.order?_some about).1
  | cancel orderId _ _ => exact (Store.order?_some about).1
  | reject orderId _ => exact (Store.order?_some about).1
  | fill report => exact Terms.resolveOrder?_mem about
  | status report => exact Terms.resolveOrder?_mem about

/-- What a call about an order does: nothing, a change of this order, or a fill of it. -/
inductive Affects (call : Call) (terms : Terms) (now : Instant) (store : Store) (order : Order) :
    Store → Prop where
  | nothing : Affects call terms now store order store
  | changed {eventType : OrderEventType} {transition : Transition} {moved : Order} {after : Store}
      (change : order.Change now eventType transition moved)
      (moves : terms.Moves now eventType transition moved store after)
      (arithmetic : call.arithmetic terms now store =
        Terms.closingArithmetic moved (store.withOrder moved) now) :
      Affects call terms now store order after
  | filled {report : ExecutionReport} {outcome : IngestOutcome} {after : Store}
      (filling : call = .fill report) (fills : terms.Fills order report now store outcome after) :
      Affects call terms now store order after

theorem affects (about : call.order? store = some order) (unique : (store.orders.map (·.id)).Nodup)
    (terms : Terms) (now : Instant) :
    call.Affects terms now store order (call.apply terms now store) := by
  have performed : ∀ {α : Type} {work : Work α}, (∀ value after,
      work.run store = .ok (value, after) → call.Affects terms now store order after) →
      call.Affects terms now store order (store.perform work).2 :=
    Store.perform_keeps (call.Affects terms now store order) .nothing
  cases call with
  | create command => contradiction
  | acknowledge orderId exchange exchangeOrderId exchangeClientOrderId =>
      refine performed fun outcome after done => ?_
      obtain ⟨found, moved, lookup, given, ⟨-, rfl⟩ | ⟨transition, rfl, moves⟩⟩ :=
        Terms.acknowledgeOrder_cases done
      · exact .nothing
      · obtain rfl := Option.some.inj (about.symm.trans lookup)
        refine .changed (.acknowledged given) moves ?_
        obtain ⟨-, -, rfl⟩ := Order.acknowledge_ok given
        rfl
  | cancel orderId account reason =>
      refine performed fun canceled after done => ?_
      obtain ⟨found, transition, lookup, cancel, moves⟩ := Terms.cancelOrder_cases done
      obtain rfl := Option.some.inj (about.symm.trans lookup)
      refine .changed (.canceled cancel) moves ?_
      simp only [arithmetic, lookup, Terms.closeArithmetic, Option.map_some, cancel]
  | reject orderId reason =>
      refine performed fun rejected after done => ?_
      obtain ⟨found, transition, lookup, reject, moves⟩ := Terms.rejectOrder_cases done
      obtain rfl := Option.some.inj (about.symm.trans lookup)
      refine .changed (.rejected reject) moves ?_
      simp only [arithmetic, lookup, Terms.closeArithmetic, Option.map_some, reject]
  | fill report =>
      refine performed fun outcome after done => ?_
      obtain ⟨-, -, ⟨unknown, -⟩ | ⟨found, resolved, ⟨-, -, rfl⟩ | ⟨-, fills⟩⟩⟩ :=
        Terms.processFill_cases done
      · cases about.symm.trans unknown
      · exact .nothing
      · obtain rfl := Option.some.inj (about.symm.trans resolved)
        exact .filled rfl fills
  | status report =>
      refine performed fun outcome after done => ?_
      obtain ⟨unknown, -⟩ | ⟨found, resolved, processed⟩ := Terms.processStatus_cases done
      · cases about.symm.trans unknown
      obtain rfl := Option.some.inj (about.symm.trans resolved)
      obtain ⟨acknowledged, done⟩ | ⟨other, done⟩ := processed
      · obtain ⟨-, -, rfl⟩ | ⟨number, transition, -, -, done, -⟩ :=
          Terms.acknowledgeReported_cases done
        · exact .nothing
        · obtain ⟨again, moved, lookup, given, ⟨-, rfl⟩ | ⟨change, rfl, moves⟩⟩ :=
            Terms.acknowledgeOrder_cases done
          · exact .nothing
          · have same := Store.order?_of_mem unique (Terms.resolveOrder?_mem resolved)
            obtain rfl := Option.some.inj (same.symm.trans lookup)
            refine .changed (.acknowledged given) moves ?_
            obtain ⟨-, -, rfl⟩ := Order.acknowledge_ok given
            simp only [arithmetic, resolved, Terms.statusArithmetic, if_pos acknowledged]
            rfl
      · obtain ⟨transition, moved, applied, ⟨-, -, rfl⟩ | ⟨change, rfl, -, moves⟩⟩ :=
          Terms.reconcileStatus_cases done
        · exact .nothing
        · refine .changed (.reported other applied) moves ?_
          simp only [arithmetic, resolved, Terms.statusArithmetic, if_neg other, applied]

theorem Affects.confined {after : Store} (affects : call.Affects terms now store order after)
    (issued : store.Issued (store.reservations.map (·.id)))
    (backed : order.BackedBy (store.reservationsOf order.id)) : store.Confined after order := by
  cases affects with
  | nothing => exact .refl store order
  | changed change moves _ => exact moves.confined change.advances issued.1 backed
  | filled _ fills => exact fills.confined issued backed

theorem Affects.keepsWorth {after : Store} (affects : call.Affects terms now store order after)
    (unfilled : call.report? = none) (exact : Exact (call.arithmetic terms now store))
    (backed : order.BackedBy (store.reservationsOf order.id)) (grounded : store.Grounded) :
    store.KeepsWorth after := by
  cases affects with
  | nothing => exact .of_same_balances rfl
  | filled filling _ =>
      rw [filling] at unfilled
      contradiction
  | @changed _ _ moved _ change moves arithmetic =>
      rw [arithmetic] at exact
      cases moves with
      | moved _ close _ _ =>
          have covered : ∀ held, store.activeReservation? moved.id = some held →
              0 ≤ held.amount.value ∧ store.Returnable held := by
            intro held active
            have returnable := grounded.returnable held (Store.activeReservation?_some active).1
            rw [change.advances.id] at active
            exact ⟨(backed.covered held active).2, returnable⟩
          have kept := Terms.releaseIfClosed_keepsWorth close exact covered
          exact kept

end Call

/-- From one store to the other an order comes in, with a reservation of its own at most, and one
balance of its account changes. -/
structure Store.Adds (store after : Store) (order : Order) (asset : String) : Prop where
  orders : after.orders.filter (·.id != order.id) = store.orders
  reservations : ∃ opened, after.reservations = store.reservations ++ opened ∧
    ∀ reservation ∈ opened, reservation.orderId = order.id
  balances : after.balances.filter (fun balance =>
      !(balance.account == order.account && balance.asset == asset)) =
    store.balances.filter fun balance =>
      !(balance.account == order.account && balance.asset == asset)
  executions : after.executions = store.executions
  ledger : after.ledger = store.ledger
  orderEvents : store.orderEvents <+: after.orderEvents
  outbox : store.outbox <+: after.outbox

theorem Store.filter_placeOrder {store : Store} {order : Order}
    (absent : store.order? order.id = none) :
    (placeOrder order store.orders).filter (·.id != order.id) = store.orders := by
  have others : ∀ other ∈ store.orders, other.id ≠ order.id := fun _ => order?_none absent
  generalize store.orders = orders at others
  induction orders with
  | nil => simp [placeOrder]
  | cons row rest ih =>
      obtain ⟨different, others⟩ := List.forall_mem_cons.mp others
      have kept : (row :: rest).filter (·.id != order.id) = row :: rest :=
        List.filter_eq_self.mpr (by simpa using ⟨different, others⟩)
      rw [placeOrder]
      split
      · rw [List.filter_cons_of_neg (by simp), kept]
      · rw [List.filter_cons_of_pos (by simpa using different), ih others]

theorem Terms.Creates.adds {terms : Terms} {command : OrderCommand} {now : Instant} {order : Order}
    {store after : Store} (creates : terms.Creates command now order store after) :
    ∃ pair, terms.catalog.assetPair order.instrument = some pair ∧
      store.Adds after order (order.reservedAsset pair) := by
  cases creates with
  | @created pair _ _ _ _ _ create listed absent _ reserve _ _ =>
      refine ⟨pair, listed, ?_⟩
      obtain ⟨-, -, rfl⟩ | ⟨asset, amount, balance, required, reserved, -, rfl⟩ :=
        Funds.reserveFor_cases reserve
      · exact ⟨store.filter_placeOrder absent, ⟨[], (List.append_nil _).symm, List.forall_mem_nil _⟩,
          rfl, rfl, rfl, List.prefix_append .., List.prefix_append ..⟩
      · obtain ⟨-, -, _, -, _, -, same⟩ := WalletBalance.reserve_ok.mp reserved
        have keys := (store.withNewOrder order).balanceOf_key order.account asset now
        have key : balance.account = order.account ∧ balance.asset = order.reservedAsset pair := by
          rw [← same, ← Funds.requirement_asset required]
          exact keys
        refine ⟨store.filter_placeOrder absent, ⟨_, rfl, by simp [WalletReservation.opened]⟩, ?_, rfl,
          rfl, List.prefix_append .., List.prefix_append ..⟩
        exact Store.filter_putBalance (fun other same => by simp [same, key]) store.balances

theorem Terms.Creates.keepsWorth {terms : Terms} {command : OrderCommand} {now : Instant}
    {order : Order} {store after : Store} (creates : terms.Creates command now order store after)
    (exact : Exact (terms.createArithmetic command store now)) : store.KeepsWorth after := by
  cases creates with
  | created create listed absent untaken reserve _ _ =>
      rw [createArithmetic_eq create listed absent untaken] at exact
      have kept := Funds.reserveFor_keepsWorth exact reserve
      exact kept

namespace Sample

/-- A purchase like the sample, of another account. -/
def neighbour : OrderCommand :=
  { purchase with orderId := some "o-2", account := "a-2", clientOrderId := some "c-2" }

/-- Another account is about to buy while the sample order is open. -/
def seededNeighbour : List Request := acknowledged ++ [.seed "a-2" "USDT" (units 1000) start]

/-- Two accounts have open orders. -/
def neighbours : List Request := seededNeighbour ++ [.settle (.create neighbour) terms start]

end Sample

namespace Store

/-- Along a run orders have the reservations that they should have, whatever is seeded. -/
theorem reached_backing (run : List Request) :
    (reached run).Identified ∧ (reached run).Backing := by
  refine afterAll_induction (fun store => store.Identified ∧ store.Backing)
    ⟨empty_identified, empty_funded.backing⟩ ?_
  intro request _ store ⟨identified, backing⟩
  refine apply_induction (fun store => store.Identified ∧ store.Backing) request
    ⟨identified, backing⟩ ?_ ?_
  · intro store balances ⟨identified, backing⟩
    exact ⟨identified.withBalances balances, backing.priced, backing.backed, backing.owned⟩
  · intro store after filling operations step ⟨identified, backing⟩
    exact ⟨step.identified identified, step.backing identified.reservations backing⟩

/-- A call about an order changes no other order, no reservation of another order and no balance of
another account, and what is recorded stays as it is; if it is no fill, every balance is worth what
it was worth.  Creating an order changes no order, reservation, execution or transaction that was
there, and no balance but that of the account in the asset that it reserves. -/
theorem calls_are_confined (run : List Request) (terms : Terms) (now : Instant) :
    (∀ (call : Call) (order : Order), call.order? (reached run) = some order →
      (reached run).Confined (call.apply terms now (reached run)) order ∧
      (call.report? = none → Exact (call.arithmetic terms now (reached run)) →
        (reached run).KeepsWorth (call.apply terms now (reached run)))) ∧
    ∀ (command : OrderCommand) (order : Order) (after : Store),
      (reached run).perform (terms.createOrder command now) = (.ok order, after) →
      order.account = command.account ∧
      (∃ pair, terms.catalog.assetPair order.instrument = some pair ∧
        (reached run).Adds after order (order.reservedAsset pair)) ∧
      (Exact ((Call.create command).arithmetic terms now (reached run)) →
        (reached run).KeepsWorth after) := by
  obtain ⟨identified, backing⟩ := reached_backing run
  constructor
  · intro call order about
    have affects := Call.affects about identified.orders terms now
    have backed := backing.backed order (Call.order?_mem about)
    exact ⟨affects.confined identified.reservations backed, fun unfilled exact =>
      affects.keepsWorth unfilled exact backed (reached_grounded run)⟩
  · intro command order after performed
    have creates := Terms.createOrder_creates (perform_ok_iff.mp performed)
    obtain ⟨⟨_, create⟩, -⟩ := creates.places
    refine ⟨?_, creates.adds, creates.keepsWorth⟩
    simp only [Order.create, bind_ok_iff, pure_ok_iff] at create
    obtain ⟨_, -, rfl⟩ := create
    rfl

/-- The sample order is filled or canceled beside the order of another account, which was placed
beside it. -/
theorem sample_calls_are_confined :
    (∃ order ∈ (Call.fill (Sample.trade none)).order? (reached Sample.neighbours),
      order.account = "a-1" ∧ (reached Sample.neighbours).Confined
        ((Call.fill (Sample.trade none)).apply Sample.terms Sample.start
          (reached Sample.neighbours)) order) ∧
    (∃ order ∈ (Call.cancel "o-1" "a-1" none).order? (reached Sample.neighbours),
      order.account = "a-1" ∧ (reached Sample.neighbours).KeepsWorth
        ((Call.cancel "o-1" "a-1" none).apply Sample.terms Sample.start
          (reached Sample.neighbours))) ∧
    ∃ order after, (reached Sample.seededNeighbour).perform
        (Sample.terms.createOrder Sample.neighbour Sample.start) = (.ok order, after) ∧
      order.account = "a-2" ∧ (reached Sample.seededNeighbour).KeepsWorth after := by
  have filled : ∃ order ∈ (Call.fill (Sample.trade none)).order? (reached Sample.neighbours),
      order.account = "a-1" := by decide +kernel
  have canceled : ∃ order ∈ (Call.cancel "o-1" "a-1" none).order? (reached Sample.neighbours),
      order.account = "a-1" := by decide +kernel
  have closeExact : Exact ((Call.cancel "o-1" "a-1" none).arithmetic Sample.terms Sample.start
      (reached Sample.neighbours)) := by decide +kernel
  have openExact : Exact ((Call.create Sample.neighbour).arithmetic Sample.terms Sample.start
      (reached Sample.seededNeighbour)) := by decide +kernel
  have created : ((reached Sample.seededNeighbour).perform
      (Sample.terms.createOrder Sample.neighbour Sample.start)).1.isOk = true := by decide +kernel
  obtain ⟨bought, boughtAbout, boughtOwner⟩ := filled
  obtain ⟨closed, closedAbout, closedOwner⟩ := canceled
  obtain ⟨confined, -⟩ := calls_are_confined Sample.neighbours Sample.terms Sample.start
  obtain ⟨-, placed⟩ := calls_are_confined Sample.seededNeighbour Sample.terms Sample.start
  have boughtConfined := (confined _ bought boughtAbout).1
  have closedWorth := (confined _ closed closedAbout).2 rfl closeExact
  refine ⟨⟨bought, boughtAbout, boughtOwner, boughtConfined⟩,
    ⟨closed, closedAbout, closedOwner, closedWorth⟩, ?_⟩
  generalize performed : (reached Sample.seededNeighbour).perform
    (Sample.terms.createOrder Sample.neighbour Sample.start) = result at created
  obtain ⟨failure | order, after⟩ := result
  · cases created
  · obtain ⟨owner, -, worth⟩ := placed Sample.neighbour order after performed
    exact ⟨order, after, rfl, owner, worth openExact⟩

end Store

end SpotSettlement
