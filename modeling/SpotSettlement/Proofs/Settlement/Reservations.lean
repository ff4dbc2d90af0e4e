import SpotSettlement.Proofs.Settlement.Identities

namespace SpotSettlement

/-! # Orders and their reservations

An order that reserves funds has one reservation, which is active while the order is open; closing
the order closes the reservation in a status of its own, and leaves nothing in it.  No other order
ever has a reservation.
-/

open Decimal

/-- Whether funds are reserved for an order: for all but a purchase at market. -/
def Order.reserves (order : Order) : Bool := order.side == .sell || order.orderType == .limit

/-- The status that the reservation of an order has, by the status of the order. -/
def OrderStatus.reservationStatus (status : OrderStatus) : ReservationStatus :=
  (Funds.closingStatus status).getD .active

theorem OrderStatus.reservationStatus_eq_active {status : OrderStatus} :
    status.reservationStatus = .active ↔ status.isTerminal = false := by
  cases status <;> decide

/-- The reservations of an order are those that it should have. -/
def Order.BackedBy (order : Order) (reservations : List WalletReservation) : Prop :=
  if order.reserves then
    ∃ reservation, reservations = [reservation] ∧ reservation.account = order.account ∧
      reservation.status = order.status.reservationStatus ∧ 0 ≤ reservation.amount.value ∧
      (order.status.isTerminal = true → reservation.amount = .zero)
  else reservations = []

namespace Store

variable {store after : Store} {held drawn : WalletReservation} {orderId id : String}
  {order moved : Order}

theorem activeReservation?_eq (store : Store) (orderId : String) :
    store.activeReservation? orderId =
      (store.reservationsOf orderId).find? (·.status == .active) := by
  simp only [activeReservation?, reservationsOf, List.find?_filter, Bool.decide_and,
    Bool.decide_eq_true]

theorem reservationsOf_withNewReservation (store : Store) (reservation : WalletReservation)
    (id : String) : (store.withNewReservation reservation).reservationsOf id =
      store.reservationsOf id ++ if reservation.orderId = id then [reservation] else [] := by
  rw [reservationsOf, withNewReservation, List.filter_append, reservationsOf]
  by_cases same : reservation.orderId = id <;> simp [same]

/-- Writing the only reservation of an order replaces it. -/
theorem reservationsOf_withReservation (unique : (store.reservations.map (·.id)).Nodup)
    (only : store.reservationsOf orderId = [held]) (sameId : drawn.id = held.id)
    (sameOrder : drawn.orderId = held.orderId) :
    (store.withReservation drawn).reservationsOf orderId = [drawn] ∧
      ∀ id, id ≠ orderId →
        (store.withReservation drawn).reservationsOf id = store.reservationsOf id := by
  have member : held ∈ store.reservationsOf orderId := only ▸ List.mem_singleton_self held
  obtain ⟨present, owner⟩ := List.mem_filter.mp member
  have found := find?_reservation_of_mem unique present
  rw [← sameId] at found
  have written : ∀ id, (store.withReservation drawn).reservationsOf id =
      if held.orderId == id then putReservation drawn (store.reservationsOf id)
      else store.reservationsOf id :=
    fun id => filter_putReservation (by rw [sameOrder]) found
  rw [beq_iff_eq] at owner
  constructor
  · rw [written, owner, only]
    simp [putReservation, sameId]
  · intro id other
    rw [written, owner, if_neg (by simpa using Ne.symm other)]

end Store

/-- No order has lost a reservation or had one exchanged for another. -/
def Store.KeepsReservations (store after : Store) : Prop :=
  ∀ id, (store.reservationsOf id).map (·.id) <+: (after.reservationsOf id).map (·.id)

/-- The reservations of one order are those it should have, and those of no other have changed. -/
structure Store.Backs (store after : Store) (order : Order) : Prop where
  backed : order.BackedBy (after.reservationsOf order.id)
  kept : (store.reservationsOf order.id).map (·.id) <+: (after.reservationsOf order.id).map (·.id)
  elsewhere : ∀ id, id ≠ order.id → after.reservationsOf id = store.reservationsOf id

theorem Store.Backs.keeps {store after : Store} {order : Order} (backs : store.Backs after order) :
    store.KeepsReservations after := by
  intro id
  by_cases same : id = order.id
  · rw [same]
    exact backs.kept
  · rw [backs.elsewhere id same]

namespace Order

variable {order moved : Order} {store after : Store} {held : WalletReservation}

/-- An active reservation is the only one of its order, and the order is open. -/
theorem BackedBy.of_active (backed : order.BackedBy (store.reservationsOf order.id))
    (active : store.activeReservation? order.id = some held) :
    order.reserves = true ∧ store.reservationsOf order.id = [held] ∧
      held.account = order.account ∧ held.status = order.status.reservationStatus ∧
      0 ≤ held.amount.value ∧ order.status.isTerminal = false := by
  obtain ⟨-, -, holding⟩ := Store.activeReservation?_some active
  rw [Store.activeReservation?_eq] at active
  unfold BackedBy at backed
  split at backed
  · next reserves =>
      obtain ⟨reservation, only, owner, status, nonneg, -⟩ := backed
      rw [only] at active
      have same := List.mem_singleton.mp (List.mem_of_find?_eq_some active)
      subst same
      have openStatus := OrderStatus.reservationStatus_eq_active.mp (status.symm.trans holding)
      exact ⟨reserves, only, owner, status, nonneg, openStatus⟩
  · rw [backed] at active
    contradiction

/-- An open order that has no active reservation has none, and should have none. -/
theorem BackedBy.of_inactive (backed : order.BackedBy (store.reservationsOf order.id))
    (openStatus : order.status.isTerminal = false)
    (absent : store.activeReservation? order.id = none) :
    order.reserves = false ∧ store.reservationsOf order.id = [] := by
  rw [Store.activeReservation?_eq] at absent
  unfold BackedBy at backed
  split at backed
  · obtain ⟨reservation, only, -, active, -, -⟩ := backed
    rw [OrderStatus.reservationStatus_eq_active.mpr openStatus] at active
    rw [only] at absent
    simp [active] at absent
  · next reserves => exact ⟨eq_false_of_ne_true reserves, backed⟩

theorem BackedBy.covered (backed : order.BackedBy (store.reservationsOf order.id)) :
    Funds.Covered store order.id order.account := by
  intro held active
  obtain ⟨-, -, owner, -, nonneg, -⟩ := backed.of_active active
  exact ⟨owner, nonneg⟩

theorem Advances.reserves (advances : order.Advances moved) : moved.reserves = order.reserves := by
  rw [advances.kept]
  rfl

end Order

namespace Funds

variable {store after : Store} {order moved : Order} {pair : AssetPair} {now : Instant}
  {outcome : Option WalletBalance} {status : ReservationStatus} {balances : List WalletBalance}
  {deltas : AssetTotals}

/-- An order requires funds if and only if it reserves them. -/
theorem requirement_reserves {requirement : Option (String × Decimal)}
    (required : order.reservationRequirement pair = .ok requirement)
    (priced : order.limitPrice = none ↔ order.orderType = .market) :
    order.reserves = requirement.isSome := by
  unfold Order.reservationRequirement at required
  unfold Order.reserves
  split at required
  · next side price =>
      simp only [bind_ok_iff, pure_ok_iff] at required
      obtain ⟨notional, -, rfl⟩ := required
      rw [price] at priced
      cases type : order.orderType <;> simp [type] at priced ⊢
  · next side price =>
      cases required
      simp [side, priced.mp price]
  · next side =>
      cases required
      simp [side]

/-- A new order gets the reservation that it should have. -/
theorem reserveFor_backs (fresh : store.reservationsOf order.id = [])
    (priced : order.limitPrice = none ↔ order.orderType = .market) (new : order.status = .new)
    (done : (reserveFor order pair now).run store = .ok (outcome, after)) :
    store.Backs after order := by
  obtain ⟨required, -, rfl⟩ | ⟨asset, amount, balance, required, reserved, -, rfl⟩ :=
    reserveFor_cases done
  · refine ⟨?_, List.prefix_rfl, fun _ _ => rfl⟩
    rw [Order.BackedBy, requirement_reserves required priced]
    exact fresh
  · obtain ⟨positive, -⟩ := WalletBalance.reserve_ok.mp reserved
    refine ⟨?_, ?_, ?_⟩
    · rw [Order.BackedBy, requirement_reserves required priced, Option.isSome_some, if_pos rfl,
        Store.reservationsOf_withNewReservation]
      refine ⟨_, congrArg₂ (· ++ ·) fresh (if_pos rfl), rfl, ?_, positive.le, ?_⟩
      · rw [new]
        rfl
      · rw [new]
        exact fun closed => absurd closed (by decide)
    · rw [fresh]
      exact List.nil_prefix
    · intro id other
      rw [Store.reservationsOf_withNewReservation]
      exact (congrArg _ (if_neg (Ne.symm other))).trans (List.append_nil _)

/-- Closing an order closes its reservation. -/
theorem releaseFor_backs (unique : (store.reservations.map (·.id)).Nodup)
    (backed : order.BackedBy (store.reservationsOf order.id)) (advances : order.Advances moved)
    (closing : closingStatus moved.status = some status)
    (done : (releaseFor moved.id status now).run store = .ok (outcome, after)) :
    store.Backs after moved := by
  have openStatus := OrderStatus.not_terminal_of_canBecome advances.legal
  have reserves := advances.reserves
  rw [advances.id] at done
  obtain ⟨absent, -, rfl⟩ | ⟨held, balance, found, -, -, rfl⟩ := releaseFor_cases done
  · -- An open order without an active reservation is one that reserves nothing.
    obtain ⟨idle, none⟩ := backed.of_inactive openStatus absent
    refine ⟨?_, List.prefix_rfl, fun _ _ => rfl⟩
    rw [Order.BackedBy, reserves, idle, advances.id]
    exact none
  · obtain ⟨holds, only, owner, -, -, -⟩ := backed.of_active found
    have rows : ((store.withBalance balance).reservations.map (·.id)).Nodup := unique
    have sameId : { held with amount := .zero, status, updatedAt := now : WalletReservation }.id =
        held.id := rfl
    obtain ⟨closed, elsewhere⟩ := Store.reservationsOf_withReservation rows only sameId rfl
    rw [← advances.id] at only closed elsewhere
    refine ⟨?_, ?_, elsewhere⟩
    · rw [Order.BackedBy, if_pos (reserves.trans holds), closed]
      refine ⟨_, rfl, owner.trans advances.account.symm, ?_, ?_, fun _ => rfl⟩
      · rw [OrderStatus.reservationStatus, closing]
        rfl
      · simp
    · rw [only, closed, List.map_singleton, List.map_singleton]

/-- Settling a fill keeps the reservation, which may have been drawn on. -/
theorem settleFill_backs
    (done : (settleFill order.account order.id deltas now).run store = .ok (balances, after))
    (unique : (store.reservations.map (·.id)).Nodup)
    (backed : order.BackedBy (store.reservationsOf order.id)) : store.Backs after order := by
  obtain ⟨next, middle, settling, -, saved⟩ := settleFill_cases done
  have advance := settleAll_advance settling
  have tables : middle.reservations = store.reservations := by rw [advance.tables]
  obtain ⟨-, rfl⟩ | ⟨drawn, reservation, rfl⟩ := saved
  · have same : ∀ id, after.reservationsOf id = store.reservationsOf id :=
      fun id => congrArg _ tables
    exact ⟨by rw [same]; exact backed, by rw [same], fun id _ => same id⟩
  · have related := advance.drawn
    have nonneg := advance.held_nonneg
    rw [reservation] at related nonneg
    cases active : store.activeReservation? order.id with
    | none => rw [active] at related; contradiction
    | some held =>
        rw [active] at related nonneg
        obtain ⟨kept⟩ := related
        obtain ⟨reserves, only, owner, status, covered, openStatus⟩ := backed.of_active active
        have left := nonneg covered
        have settledOnly : middle.reservationsOf order.id = [held] := by
          rw [Store.reservationsOf, tables]
          exact only
        obtain ⟨written, elsewhere⟩ := Store.reservationsOf_withReservation
          (by rw [tables]; exact unique) settledOnly kept.id kept.orderId
        refine ⟨?_, ?_, ?_⟩
        · rw [Order.BackedBy, if_pos reserves, written]
          refine ⟨drawn, rfl, kept.account.trans owner, kept.status.trans status, left, ?_⟩
          rw [openStatus]
          exact fun closed => absurd closed Bool.false_ne_true
        · rw [only, written, List.map_singleton, List.map_singleton, kept.id]
        · intro id other
          rw [elsewhere id other, Store.reservationsOf, tables]
          rfl

end Funds

theorem Terms.releaseIfClosed_backs {store after : Store} {order moved : Order} {now : Instant}
    {released : Option WalletBalance}
    (done : (releaseIfClosed moved now).run store = .ok (released, after))
    (unique : (store.reservations.map (·.id)).Nodup)
    (backed : order.BackedBy (store.reservationsOf order.id)) (advances : order.Advances moved) :
    store.Backs after moved := by
  obtain ⟨staysOpen, -, rfl⟩ | ⟨status, closing, release⟩ := releaseIfClosed_cases done
  · refine ⟨?_, List.prefix_rfl, fun _ _ => rfl⟩
    have openStatus := OrderStatus.not_terminal_of_canBecome advances.legal
    have active : moved.status.reservationStatus = .active := by
      rw [OrderStatus.reservationStatus, staysOpen]
      rfl
    have stillOpen := OrderStatus.reservationStatus_eq_active.mp active
    rw [advances.id]
    unfold Order.BackedBy at backed ⊢
    rw [advances.reserves, advances.account, active, stillOpen]
    rw [OrderStatus.reservationStatus_eq_active.mpr openStatus, openStatus] at backed
    exact backed
  · exact Funds.releaseFor_backs unique backed advances closing release

namespace Store

variable {filling : Option ExecutionReport} {operations : List Operation}

/-- Every order has the reservations that it should have, and there are no others. -/
structure Backing (store : Store) : Prop where
  priced : ∀ order ∈ store.orders, order.limitPrice = none ↔ order.orderType = .market
  backed : ∀ order ∈ store.orders, order.BackedBy (store.reservationsOf order.id)
  owned : ∀ id, (∀ order ∈ store.orders, order.id ≠ id) → store.reservationsOf id = []

variable {store after : Store} {order moved : Order}

theorem Backing.place (backing : store.Backing) (absent : store.order? order.id = none)
    (priced : order.limitPrice = none ↔ order.orderType = .market)
    (orders : after.orders = placeOrder order store.orders) (backs : store.Backs after order) :
    after.Backing where
  priced other member := by
    rw [orders] at member
    obtain rfl | earlier := mem_placeOrder.mp member
    · exact priced
    · exact backing.priced other earlier
  backed other member := by
    rw [orders] at member
    obtain rfl | earlier := mem_placeOrder.mp member
    · exact backs.backed
    · rw [backs.elsewhere other.id (order?_none absent earlier)]
      exact backing.backed other earlier
  owned id unused := by
    rw [orders] at unused
    rw [backs.elsewhere id (Ne.symm (unused order (mem_placeOrder.mpr (.inl rfl))))]
    exact backing.owned id fun other member => unused other (mem_placeOrder.mpr (.inr member))

theorem Backing.replace (backing : store.Backing) (member : order ∈ store.orders)
    (advances : order.Advances moved) (orders : after.orders = replaceOrder moved store.orders)
    (backs : store.Backs after moved) : after.Backing where
  priced other present := by
    rw [orders] at present
    obtain ⟨earlier, -⟩ | rfl := mem_replaceOrder present
    · exact backing.priced other earlier
    · rw [advances.kept]
      exact backing.priced order member
  backed other present := by
    rw [orders] at present
    obtain ⟨earlier, different⟩ | rfl := mem_replaceOrder present
    · rw [backs.elsewhere other.id different]
      exact backing.backed other earlier
    · exact backs.backed
  owned id unused := by
    rw [orders] at unused
    have writes := mem_replaceOrder_self member advances.id.symm
    rw [backs.elsewhere id (Ne.symm (unused moved writes))]
    apply backing.owned
    intro other present
    by_cases same : other.id = moved.id
    · rw [same]
      exact unused moved writes
    · exact unused other (mem_replaceOrder_of_ne present same)

/-- A step leaves reservations alone, or changes those of the order that it places or advances, as
it should. -/
theorem Step.backs_cases (step : store.Step filling operations after)
    (issued : store.Issued (store.reservations.map (·.id))) (backing : store.Backing) :
    after = store ∨
    (∃ order, store.order? order.id = none ∧
      (order.limitPrice = none ↔ order.orderType = .market) ∧
      after.orders = placeOrder order store.orders ∧ store.Backs after order) ∨
    ∃ order ∈ store.orders, ∃ moved, order.Advances moved ∧
      after.orders = replaceOrder moved store.orders ∧ store.Backs after moved := by
  cases step with
  | idle => exact .inl rfl
  | @created _ _ _ order _ _ _ _ _ _ create absent _ reserve _ _ =>
      obtain ⟨new, -, -, -, -, priced⟩ := Order.create_ok create
      have fresh : (store.withNewOrder order).reservationsOf order.id = [] :=
        backing.owned order.id fun other member => order?_none absent member
      have backs := Funds.reserveFor_backs fresh priced new reserve
      exact .inr (.inl ⟨order, absent, priced, (Funds.reserveFor_funds reserve).orders,
        backs.backed, backs.kept, backs.elsewhere⟩)
  | moved _ member change close _ _ =>
      have backs := Terms.releaseIfClosed_backs close issued.1 (backing.backed _ member)
        change.advances
      exact .inr (.inr ⟨_, member, _, change.advances, (Terms.releaseIfClosed_funds close).orders,
        backs.backed, backs.kept, backs.elsewhere⟩)
  | filled resolved _ fills =>
      have member := Terms.resolveOrder?_mem resolved
      cases fills with
      | @applied _ _ _ _ settled _ _ moved _ _ _ _ _ _ _ _ _ settle _ advance close _ _ _ _ =>
          have advances := Order.applyFill_advances advance
          have funds := Funds.settleFill_funds settle
          have orders := (Terms.releaseIfClosed_funds close).orders.trans
            (congrArg (replaceOrder moved) funds.orders)
          -- The fill draws on the reservation first, and closes what is left of it afterwards.
          have drawn := Funds.settleFill_backs settle issued.1 (backing.backed _ member)
          have unique := (funds.issued (issued.mono (Nat.le_succ _))).1
          have backs := Terms.releaseIfClosed_backs close unique drawn.backed advances
          refine .inr (.inr ⟨_, member, moved, advances, orders, backs.backed, ?_, ?_⟩)
          · exact (advances.id ▸ drawn.kept).trans backs.kept
          · intro id other
            exact (backs.elsewhere id other).trans (drawn.elsewhere id (advances.id ▸ other))

theorem Step.backing (step : store.Step filling operations after)
    (issued : store.Issued (store.reservations.map (·.id))) (backing : store.Backing) :
    after.Backing := by
  obtain rfl | ⟨order, absent, priced, orders, backs⟩ |
    ⟨order, member, moved, advances, orders, backs⟩ := step.backs_cases issued backing
  · exact backing
  · exact backing.place absent priced orders backs
  · exact backing.replace member advances orders backs

theorem Step.keepsReservations (step : store.Step filling operations after)
    (issued : store.Issued (store.reservations.map (·.id))) (backing : store.Backing) :
    store.KeepsReservations after := by
  obtain rfl | ⟨order, -, -, -, backs⟩ | ⟨order, -, moved, -, -, backs⟩ :=
    step.backs_cases issued backing
  · exact fun _ => List.prefix_rfl
  · exact backs.keeps
  · exact backs.keeps

theorem Step.solvent (step : store.Step filling operations after) (solvent : store.Solvent) :
    after.Solvent := by
  cases step with
  | idle => exact solvent
  | created _ _ _ reserve _ _ => exact (Funds.reserveFor_funds reserve).solvent solvent
  | moved _ _ _ close _ _ => exact (Terms.releaseIfClosed_funds close).solvent solvent
  | filled _ _ fills =>
      cases fills with
      | applied _ _ _ settle _ _ close _ _ _ _ =>
          have settled := (Funds.settleFill_funds settle).solvent solvent
          exact (Terms.releaseIfClosed_funds close).solvent settled

/-- Everything about funds that a run keeps, whether or not it rounds. -/
structure Funded (store : Store) : Prop where
  identified : store.Identified
  solvent : store.Solvent
  backing : store.Backing

theorem empty_funded : ({} : Store).Funded where
  identified := empty_identified
  solvent := List.forall_mem_nil _
  backing := ⟨List.forall_mem_nil _, List.forall_mem_nil _, fun _ _ => rfl⟩

theorem Step.funded (step : store.Step filling operations after) (funded : store.Funded) :
    after.Funded where
  identified := step.identified funded.identified
  solvent := step.solvent funded.solvent
  backing := step.backing funded.identified.reservations funded.backing

theorem apply_funded {request : Request} (nonneg : request.Nonnegative) (funded : store.Funded) :
    (request.apply store).Funded := by
  cases request with
  | settle call terms now => exact (call.step terms now store).funded funded
  | seed account asset amount now =>
      obtain ⟨-, -, same⟩ | ⟨available, added, written⟩ := store.seed_cases account asset amount now
      · rw [same]
        exact funded
      · rw [written]
        have before := funded.solvent.balanceOf account asset now
        have amountNonneg : 0 ≤ amount.value := by
          rw [← not_lt, ← isNegative_iff_value, Bool.not_eq_true]
          exact nonneg
        have backing := funded.backing
        exact ⟨funded.identified.withBalances _,
          funded.solvent.withBalance ⟨add_nonneg before.1 amountNonneg added, before.2⟩,
          ⟨backing.priced, backing.backed, backing.owned⟩⟩

theorem afterAll_funded {run : List Request} (nonneg : ∀ request ∈ run, request.Nonnegative)
    (funded : store.Funded) : (store.afterAll run).Funded :=
  afterAll_induction Funded funded fun request member _ => apply_funded (nonneg request member)

theorem apply_keepsReservations (request : Request) (funded : store.Funded) :
    store.KeepsReservations (request.apply store) := by
  cases request with
  | settle call terms now =>
      exact (call.step terms now store).keepsReservations funded.identified.reservations
        funded.backing
  | seed account asset amount now =>
      obtain ⟨balances, written⟩ := store.seed_tables account asset amount now
      rw [written]
      exact fun _ => List.prefix_rfl

theorem afterAll_keepsReservations {run : List Request}
    (nonneg : ∀ request ∈ run, request.Nonnegative) (funded : store.Funded) :
    store.KeepsReservations (store.afterAll run) := by
  have both : (store.afterAll run).Funded ∧ store.KeepsReservations (store.afterAll run) := by
    refine afterAll_induction (fun later => later.Funded ∧ store.KeepsReservations later)
      ⟨funded, fun _ => List.prefix_rfl⟩ ?_
    intro request member later ⟨laterFunded, kept⟩
    refine ⟨apply_funded (nonneg request member) laterFunded, ?_⟩
    intro id
    exact (kept id).trans (apply_keepsReservations request laterFunded id)
  exact both.2

end Store

end SpotSettlement
