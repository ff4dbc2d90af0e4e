import SpotSettlement.Proofs.Settlement.Conservation
import SpotSettlement.Proofs.Settlement.Holdings

namespace SpotSettlement

/-! # Getting reserved funds back

Whatever a run has done, an open order can be canceled by its account, and a new one rejected: the
change is legal, the reserved part covers what the order holds, and the events that tell of the
change are valid.  What the order holds becomes available again, and no other balance changes.
-/

open Decimal

variable {store after : Store} {order moved closed : Order} {terms : Terms} {now : Instant}
  {orderId : String} {status : ReservationStatus}

namespace Order

theorem close_exists {next : OrderStatus} (openStatus : order.status.isTerminal = false)
    (legal : order.status.canBecome next = true) (now : Instant) :
    order.close next now =
      .ok (⟨order.status, next⟩, { order with status := next, updatedAt := now }) := by
  have checked : OrderStatus.checkTransition order.status next = .ok () :=
    OrderStatus.checkTransition_ok.mpr legal
  simp only [close, openStatus, checked, Bool.false_eq_true, if_false]
  rfl

theorem cancel_exists (openStatus : order.status.isTerminal = false) (now : Instant) :
    order.cancel order.account now =
      .ok (⟨order.status, .canceled⟩, { order with status := .canceled, updatedAt := now }) := by
  have legal : order.status.canBecome .canceled = true := by
    revert openStatus
    cases order.status <;> decide
  have closing := close_exists openStatus legal now
  simpa only [cancel, ne_eq, not_true_eq_false, if_false] using closing

theorem reject_exists (new : order.status = .new) (now : Instant) :
    order.reject now =
      .ok (⟨order.status, .rejected⟩, { order with status := .rejected, updatedAt := now }) :=
  close_exists (by rw [new]; rfl) (by rw [new]; rfl) now

end Order

/-- The reserved part of its balance covers what the order holds. -/
def Store.Covers (store : Store) (orderId : String) : Prop :=
  ∀ held, store.activeReservation? orderId = some held →
    held.amount.value ≤ store.reservedOf held.account held.asset

theorem WalletBalance.release_exists {balance : WalletBalance} {amount : Decimal}
    (positive : 0 < amount.value) (covered : amount.value ≤ balance.reserved.value)
    (exact : Exact (balance.releaseArithmetic amount)) (now : Instant) :
    ∃ after, balance.release amount now = .ok after := by
  rw [releaseArithmetic,
    if_pos ⟨isPositive_iff_value.mpr positive, not_lt_iff_value.mpr covered⟩, exact_cons_iff,
    exact_cons_iff] at exact
  obtain ⟨⟨reserved, taken, -⟩, ⟨available, added, -⟩, -⟩ := exact
  exact ⟨_, release_ok.mpr ⟨positive, covered, reserved, taken, available, added, rfl⟩⟩

theorem Funds.releaseFor_exists (covers : store.Covers orderId)
    (exact : Exact (releaseArithmetic orderId store now)) (status : ReservationStatus) :
    ∃ outcome after, (releaseFor orderId status now).run store = .ok (outcome, after) := by
  unfold releaseFor
  simp only [Work.get_bind_ok]
  cases active : store.activeReservation? orderId with
  | none => exact ⟨none, store, rfl⟩
  | some held =>
      obtain ⟨member, -, holding⟩ := Store.activeReservation?_some active
      have present : store.reservations.any (·.id == held.id) = true :=
        List.any_eq_true.mpr ⟨held, member, beq_self_eq_true _⟩
      have closing : held.close status now =
          .ok (held.amount, { held with amount := .zero, status, updatedAt := now }) :=
        WalletReservation.close_ok.mpr ⟨holding, rfl, rfl⟩
      by_cases positive : held.amount.isPositive = true
      · have covered := covers held active
        rw [releaseArithmetic, active] at exact
        rw [← store.balanceOf_reserved held.account held.asset now] at covered
        obtain ⟨balance, released⟩ := WalletBalance.release_exists
          (isPositive_iff_value.mp positive) covered exact now
        refine ⟨some balance, ((store.withBalance (store.balanceOf held.account held.asset now)
          ).withBalance balance).withReservation
            { held with amount := .zero, status, updatedAt := now }, ?_⟩
        simp only [Work.bind_ok, Store.claimBalance_ok, Work.lift_ok, Prod.exists]
        refine ⟨_, _, ⟨rfl, rfl⟩, held.amount, _, _, ⟨closing, rfl⟩, ?_⟩
        simp only [positive, if_true, Work.bind_ok, Work.failing_ok, Store.saveBalance_ok,
          Store.saveReservation_ok, Work.pure_ok]
        exact ⟨balance, _, ⟨released, rfl⟩, (), _, rfl, balance, _, ⟨rfl, rfl⟩, (), _,
          ⟨present, rfl⟩, rfl, rfl⟩
      · refine ⟨some (store.balanceOf held.account held.asset now),
          (store.withBalance (store.balanceOf held.account held.asset now)).withReservation
            { held with amount := .zero, status, updatedAt := now }, ?_⟩
        simp only [Work.bind_ok, Store.claimBalance_ok, Work.lift_ok, Prod.exists]
        refine ⟨_, _, ⟨rfl, rfl⟩, held.amount, _, _, ⟨closing, rfl⟩, ?_⟩
        simp only [positive, Bool.false_eq_true, if_false, Work.bind_ok, Store.saveReservation_ok,
          Work.pure_ok]
        exact ⟨_, _, ⟨rfl, rfl⟩, (), _, ⟨present, rfl⟩, rfl, rfl⟩

namespace Terms

variable {transition : Transition} {eventType : OrderEventType}

/-- An order can be closed if its change can be announced and its funds given back. -/
theorem closeOrder_exists (terms : Terms) (moved : Order) (transition : Transition)
    (status : ReservationStatus)
    (eventType : OrderEventType) (reason : Option String) (balanceReason : String)
    (member : order ∈ store.orders) (same : moved.id = order.id)
    (consistent : 0 ≤ moved.filled.value ∧ moved.filled.value ≤ moved.quantity.value)
    (announceExact : Exact moved.announceArithmetic) (solvent : store.Solvent)
    (grounded : store.Grounded) (covers : store.Covers moved.id)
    (releaseExact : Exact (Funds.releaseArithmetic moved.id (store.withOrder moved) now)) :
    ∃ after, (terms.closeOrder moved transition status eventType reason balanceReason now).run
      store = .ok ((), after) := by
  have present : (store.order? moved.id).isSome = true :=
    List.find?_isSome.mpr ⟨order, member, by simp [same]⟩
  rw [← Option.isNone_eq_false_iff] at present
  have written : (Store.updateOrder moved).run store = .ok ((), store.withOrder moved) :=
    Store.updateOrder_ok.mpr ⟨present, rfl⟩
  have coversNow : (store.withOrder moved).Covers moved.id := covers
  obtain ⟨released, funds, release⟩ := Funds.releaseFor_exists coversNow releaseExact status
  have named : Text.isBlank moved.id = false := same ▸ grounded.named order member
  obtain ⟨recorded, recording⟩ := terms.announceOrder_exists transition.before reason named
    consistent.1 consistent.2 announceExact moved.updatedAt (funds.recorded
      ⟨Store.identifier (funds.minted + 1), moved.id, eventType, some transition.before,
        transition.after, .object [("reason", Json.ofOption .string reason)], moved.updatedAt⟩)
  have balances : ∀ balance ∈ released.toList, (Text.isBlank balance.account = false ∧
      Text.isBlank balance.asset = false) ∧ balance.Nonnegative := by
    intro balance listed
    obtain ⟨-, rfl, -⟩ | ⟨held, given, active, rfl, released, -⟩ := Funds.releaseFor_cases release
    · contradiction
    · obtain rfl := List.mem_singleton.mp listed
      have givenBack : Funds.GivenBack (store.withOrder moved) held now balance := released
      obtain ⟨account, asset, -⟩ :=
        grounded.returnable held (Store.activeReservation?_some active).1
      rw [givenBack.key.1, givenBack.key.2]
      exact ⟨⟨account, asset⟩, givenBack.nonnegative solvent⟩
  obtain ⟨after, announcing⟩ := terms.announceBalances_exists balanceReason moved.id
    (fun balance listed => (balances balance listed).1)
    (fun balance listed => (balances balance listed).2) now recorded
  refine ⟨after, ?_⟩
  simp only [closeOrder, recordTransition, Work.bind_ok, recordEvent_ok]
  exact ⟨(), _, written, released, funds, release, (), recorded, ⟨(), _, rfl, recording⟩,
    announcing⟩

end Terms

/-- From one store to the other an order is closed, what its reservation held becomes available to
its account again, and all other balances stay as they are. -/
structure Store.GivesBack (store after : Store) (closed : Order) : Prop where
  stored : after.order? closed.id = some closed
  inactive : ∀ reservation ∈ after.reservationsOf closed.id, reservation.status ≠ .active
  returned : ∀ held, store.activeReservation? closed.id = some held →
    held.account = closed.account ∧ ∃ before later,
      store.balance? held.account held.asset = some before ∧
      after.balance? held.account held.asset = some later ∧
      later.available.value = before.available.value + held.amount.value ∧
      later.reserved.value = before.reserved.value - held.amount.value
  untouched : ∀ account asset,
    (∀ held, store.activeReservation? closed.id = some held →
      ¬(held.account = account ∧ held.asset = asset)) →
    after.balance? account asset = store.balance? account asset

theorem Order.BackedBy.inactive {reservations : List WalletReservation}
    (backed : order.BackedBy reservations) (terminal : order.status.isTerminal = true) :
    ∀ reservation ∈ reservations, reservation.status ≠ .active := by
  intro reservation listed
  unfold BackedBy at backed
  split at backed
  · obtain ⟨only, same, -, settled, -, -⟩ := backed
    obtain rfl := List.mem_singleton.mp (same ▸ listed)
    rw [settled, Ne, OrderStatus.reservationStatus_eq_active, terminal]
    decide
  · rw [backed] at listed
    contradiction

/-- What the reservation of an order held is available again, and nothing else is moved. -/
theorem Funds.releaseFor_returns {outcome : Option WalletBalance}
    (done : (releaseFor orderId status now).run store = .ok (outcome, after))
    (exact : Exact (releaseArithmetic orderId store now))
    (covered : ∀ held, store.activeReservation? orderId = some held →
      0 ≤ held.amount.value ∧ store.Returnable held) :
    (∀ held, store.activeReservation? orderId = some held → ∃ before later,
      store.balance? held.account held.asset = some before ∧
      after.balance? held.account held.asset = some later ∧
      later.available.value = before.available.value + held.amount.value ∧
      later.reserved.value = before.reserved.value - held.amount.value) ∧
    ∀ account asset, (∀ held, store.activeReservation? orderId = some held →
      ¬(held.account = account ∧ held.asset = asset)) →
      after.balance? account asset = store.balance? account asset := by
  obtain ⟨absent, -, rfl⟩ | ⟨held, balance, active, -, released, rfl⟩ := releaseFor_cases done
  · exact ⟨fun held active => absurd (active.symm.trans absent) nofun, fun _ _ _ => rfl⟩
  · have given : GivenBack store held now balance := released
    have written : ∀ account asset, ((store.withBalance balance).withReservation
        { held with amount := .zero, status, updatedAt := now }).balance? account asset =
          if held.account = account ∧ held.asset = asset then some balance
          else store.balance? account asset := by
      intro account asset
      rw [← given.key.1, ← given.key.2]
      exact Store.balance?_withBalance
    constructor
    · intro other same
      obtain rfl := Option.some.inj (active.symm.trans same)
      obtain ⟨nonneg, -, -, row⟩ := covered held active
      obtain ⟨before, row⟩ := Option.isSome_iff_exists.mp row
      have found : store.balanceOf held.account held.asset now = before := by
        rw [Store.balanceOf, row]
        rfl
      rw [releaseArithmetic, active] at exact
      obtain ⟨available, reserved⟩ := given.exact nonneg exact
      rw [found] at available reserved
      exact ⟨before, balance, row, (written _ _).trans (if_pos ⟨rfl, rfl⟩), available, reserved⟩
    · intro account asset other
      rw [written, if_neg (other held active)]

theorem Terms.Moves.givesBack {eventType : OrderEventType} {transition : Transition}
    (moves : terms.Moves now eventType transition moved store after) (member : order ∈ store.orders)
    (advances : order.Advances moved) (terminal : moved.status.isTerminal = true)
    (funded : store.Funded) (grounded : store.Grounded)
    (exact : Exact (closingArithmetic moved (store.withOrder moved) now)) :
    store.GivesBack after moved := by
  have closes := (OrderStatus.isSome_closingStatus _).trans terminal
  rw [closingArithmetic, if_pos closes] at exact
  have backed := funded.backing.backed order member
  have covered : ∀ held, store.activeReservation? moved.id = some held →
      held.account = moved.account ∧ 0 ≤ held.amount.value ∧ store.Returnable held := by
    intro held active
    have returnable := grounded.returnable held (Store.activeReservation?_some active).1
    rw [advances.id] at active
    obtain ⟨-, -, owner, -, nonneg, -⟩ := backed.of_active active
    exact ⟨owner.trans advances.account.symm, nonneg, returnable⟩
  have orders := moves.orders
  cases moves with
  | @moved released funds _ _ _ _ _ close _ _ =>
      have backs := releaseIfClosed_backs close funded.identified.reservations.1 backed advances
      obtain ⟨staysOpen, -, -⟩ | ⟨status, closing, release⟩ := releaseIfClosed_cases close
      · rw [staysOpen] at closes
        contradiction
      · obtain ⟨returned, untouched⟩ := Funds.releaseFor_returns release exact fun held active =>
          (covered held active).2
        refine ⟨?_, backs.backed.inactive terminal,
          fun held active => ⟨(covered held active).1, returned held active⟩, untouched⟩
        apply Store.order?_of_mem
        · rw [orders, Store.map_id_replaceOrder]
          exact funded.identified.orders
        · rw [orders]
          exact Store.mem_replaceOrder_self member advances.id.symm

namespace Store

/-- The reserved parts of balances are what the active reservations hold. -/
def Balanced (store : Store) : Prop :=
  ∀ account asset, store.reservedOf account asset = store.heldFor account asset

theorem reached_balanced {run : List Request} (nonneg : ∀ request ∈ run, request.Nonnegative)
    (exact : Exact (({} : Store).arithmetic run)) : (reached run).Balanced := by
  intro account asset
  have held := (afterAll_gains nonneg exact empty_funded account asset).2
  have empty : ({} : Store).reservedOf account asset - ({} : Store).heldFor account asset = 0 :=
    sub_self 0
  exact sub_eq_zero.mp (held.trans empty)

theorem Backing.nonneg (backing : store.Backing) {reservation : WalletReservation}
    (member : reservation ∈ store.reservations) : 0 ≤ reservation.amount.value := by
  have listed : reservation ∈ store.reservationsOf reservation.orderId :=
    List.mem_filter.mpr ⟨member, beq_self_eq_true _⟩
  by_cases owner : ∃ order ∈ store.orders, order.id = reservation.orderId
  · obtain ⟨order, present, same⟩ := owner
    have backed := backing.backed order present
    rw [same] at backed
    unfold Order.BackedBy at backed
    split at backed
    · obtain ⟨only, rows, -, -, nonneg, -⟩ := backed
      obtain rfl := List.mem_singleton.mp (rows ▸ listed)
      exact nonneg
    · rw [backed] at listed
      contradiction
  · rw [backing.owned reservation.orderId fun order present same => owner ⟨order, present, same⟩]
      at listed
    contradiction

/-- No reservation holds more than the reserved part of its balance. -/
theorem Balanced.covers (balanced : store.Balanced) (backing : store.Backing) (orderId : String) :
    store.Covers orderId := by
  intro held active
  obtain ⟨member, -, holding⟩ := activeReservation?_some active
  rw [balanced, heldFor_eq_sum]
  have share : held.share held.account held.asset = held.amount.value := by
    rw [share_of_active holding, if_pos rfl, heldIn_some, if_pos rfl]
  have nonneg : ∀ amount ∈ store.reservations.map (·.share held.account held.asset),
      0 ≤ amount := by
    intro amount listed
    obtain ⟨reservation, present, rfl⟩ := List.mem_map.mp listed
    unfold WalletReservation.share
    split
    · exact backing.nonneg present
    · exact le_refl 0
  rw [← share]
  exact List.single_le_sum nonneg _ (List.mem_map.mpr ⟨held, member, rfl⟩)

theorem afterAll_unitOutage (store : Store) (run : List Request) :
    (store.afterAll run).unitOutage = store.unitOutage := by
  refine afterAll_induction (·.unitOutage = store.unitOutage) rfl ?_
  intro request _ later same
  exact apply_induction (·.unitOutage = store.unitOutage) request same (fun _ same => same)
    fun step same => step.unitOutage.trans same

theorem reached_available (run : List Request) : (reached run).unitOutage = none :=
  afterAll_unitOutage {} run

/-- A new order can be rejected, if nothing rounds. -/
theorem reached_rejectOrder {run : List Request} (nonneg : ∀ request ∈ run, request.Nonnegative)
    (exact : Exact (({} : Store).arithmetic run)) (member : order ∈ (reached run).orders)
    (new : order.status = .new) (announceExact : Exact order.announceArithmetic) {reason : String}
    (rejectExact : Exact ((Call.reject order.id reason).arithmetic terms now (reached run))) :
    ∃ after, (terms.rejectOrder order.id reason now).run (reached run) =
      .ok ({ order with status := .rejected, updatedAt := now }, after) := by
  have funded : (reached run).Funded := afterAll_funded nonneg empty_funded
  have found := order?_of_mem funded.identified.orders member
  have consistent : order.Consistent :=
    reached_forall_orders Order.create_consistent Order.Becomes.consistent run order member
  have rejected := Order.reject_exists new now
  simp only [Call.arithmetic, Terms.closeArithmetic, found, Option.map_some, rejected]
    at rejectExact
  obtain ⟨after, closing⟩ := terms.closeOrder_exists
    { order with status := .rejected, updatedAt := now } ⟨order.status, .rejected⟩ .cancelled
    .rejected (some reason) "ORDER_REJECTED" member rfl ⟨consistent.nonneg, consistent.within⟩
    announceExact funded.solvent (reached_grounded run)
    ((reached_balanced nonneg exact).covers funded.backing order.id) rejectExact
  refine ⟨after, ?_⟩
  simp only [Terms.rejectOrder, Work.bind_ok, Work.start_ok, existingOrder_ok, Work.lift_ok,
    Work.pure_ok]
  exact ⟨(), _, ⟨reached_available run, rfl⟩, order, _, ⟨found, rfl⟩, _, _, ⟨rejected, rfl⟩, (),
    after, closing, rfl, rfl⟩

/-- An open order can be canceled by its account, and one that is new can be rejected, if nothing
rounds.  Either way the order is closed, and the account has what was reserved for it available
again. -/
theorem reserved_funds_can_be_given_back (run : List Request)
    (nonneg : ∀ request ∈ run, request.Nonnegative) (exact : Exact (({} : Store).arithmetic run))
    {order : Order} (member : order ∈ (reached run).orders)
    (openStatus : order.status.isTerminal = false) (announceExact : Exact order.announceArithmetic)
    (terms : Terms) (now : Instant) :
    (∀ reason, Exact ((Call.cancel order.id order.account reason).arithmetic terms now
        (reached run)) →
      ∃ after, (reached run).perform (terms.cancelOrder order.id order.account reason now) =
          (.ok { order with status := .canceled, updatedAt := now }, after) ∧
        (reached run).GivesBack after { order with status := .canceled, updatedAt := now }) ∧
    (order.status = .new → ∀ reason, Exact ((Call.reject order.id reason).arithmetic terms now
        (reached run)) →
      ∃ after, (reached run).perform (terms.rejectOrder order.id reason now) =
          (.ok { order with status := .rejected, updatedAt := now }, after) ∧
        (reached run).GivesBack after { order with status := .rejected, updatedAt := now }) := by
  have funded : (reached run).Funded := afterAll_funded nonneg empty_funded
  have grounded := reached_grounded run
  have available := reached_available run
  have covers := (reached_balanced nonneg exact).covers funded.backing order.id
  have found := order?_of_mem funded.identified.orders member
  have consistent : order.Consistent :=
    reached_forall_orders Order.create_consistent Order.Becomes.consistent run order member
  have bounds := And.intro consistent.nonneg consistent.within
  constructor
  · intro reason cancelExact
    have canceled := Order.cancel_exists openStatus now
    simp only [Call.arithmetic, Terms.closeArithmetic, found, Option.map_some, canceled]
      at cancelExact
    obtain ⟨after, closing⟩ := terms.closeOrder_exists
      { order with status := .canceled, updatedAt := now } ⟨order.status, .canceled⟩ .released
      .canceled reason "ORDER_CANCELED" member rfl bounds announceExact funded.solvent grounded
      covers cancelExact
    have done : (terms.cancelOrder order.id order.account reason now).run (reached run) =
        .ok ({ order with status := .canceled, updatedAt := now }, after) := by
      simp only [Terms.cancelOrder, Work.bind_ok, Work.start_ok, existingOrder_ok, Work.lift_ok,
        Work.pure_ok]
      exact ⟨(), _, ⟨available, rfl⟩, order, _, ⟨found, rfl⟩, _, _, ⟨canceled, rfl⟩, (), after,
        closing, rfl, rfl⟩
    refine ⟨after, perform_ok_iff.mpr done, ?_⟩
    obtain ⟨_, _, -, cancel, moves⟩ := Terms.cancelOrder_cases done
    exact moves.givesBack member (Order.close_advances (Order.cancel_ok canceled).2) rfl funded
      grounded cancelExact
  · intro new reason rejectExact
    obtain ⟨after, done⟩ := reached_rejectOrder nonneg exact member new announceExact rejectExact
    have rejected := Order.reject_exists new now
    simp only [Call.arithmetic, Terms.closeArithmetic, found, Option.map_some, rejected]
      at rejectExact
    refine ⟨after, perform_ok_iff.mpr done, ?_⟩
    obtain ⟨_, _, -, reject, moves⟩ := Terms.rejectOrder_cases done
    exact moves.givesBack member (Order.close_advances rejected) rfl funded grounded rejectExact

/-- What is left of the sample order can be canceled after its fill, and it could have been rejected
before. -/
theorem sample_funds_are_given_back :
    (∃ order ∈ (reached Sample.traded).orders, order.status = .partiallyFilled ∧
      ∃ after, (reached Sample.traded).perform
          (Sample.terms.cancelOrder order.id order.account none Sample.start) =
            (.ok { order with status := .canceled, updatedAt := Sample.start }, after) ∧
        (reached Sample.traded).GivesBack after
          { order with status := .canceled, updatedAt := Sample.start }) ∧
    ∃ order ∈ (reached Sample.placed).orders, order.status = .new ∧
      ∃ after, (reached Sample.placed).perform
          (Sample.terms.rejectOrder order.id "refused" Sample.start) =
            (.ok { order with status := .rejected, updatedAt := Sample.start }, after) ∧
        (reached Sample.placed).GivesBack after
          { order with status := .rejected, updatedAt := Sample.start } := by
  have traded : ∃ order ∈ (reached Sample.traded).orders, order.status = .partiallyFilled ∧
      Exact order.announceArithmetic ∧ Exact ((Call.cancel order.id order.account none).arithmetic
        Sample.terms Sample.start (reached Sample.traded)) := by decide +kernel
  have placed : ∃ order ∈ (reached Sample.placed).orders, order.status = .new ∧
      Exact order.announceArithmetic ∧ Exact ((Call.reject order.id "refused").arithmetic
        Sample.terms Sample.start (reached Sample.placed)) := by decide +kernel
  obtain ⟨order, member, status, announceExact, cancelExact⟩ := traded
  obtain ⟨fresh, placedMember, new, freshExact, rejectExact⟩ := placed
  exact ⟨⟨order, member, status, (reserved_funds_can_be_given_back Sample.traded
      (by decide +kernel) (by decide +kernel) member (by rw [status]; rfl) announceExact
      Sample.terms Sample.start).1 none cancelExact⟩,
    fresh, placedMember, new, (reserved_funds_can_be_given_back Sample.placed (by decide +kernel)
      (by decide +kernel) placedMember (by rw [new]; rfl) freshExact Sample.terms
      Sample.start).2 new "refused" rejectExact⟩

end Store

end SpotSettlement
