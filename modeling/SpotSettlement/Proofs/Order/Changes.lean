import SpotSettlement.Order.Basic
import SpotSettlement.Proofs.Decimal.Value
import SpotSettlement.Proofs.Work

namespace SpotSettlement

/-! # Changes of an order

What the operations on an order do when they succeed.  Each moves the status along the table of
legal changes, and none touches what the caller asked for; the names that the exchange gave are set
by an acknowledgement only.
-/

open Decimal

namespace OrderStatus

variable {current after status : OrderStatus} {reported : Option OrderStatus}
  {prior filled quantity : Decimal}

theorem checkTransition_ok {u : Unit} :
    checkTransition current after = .ok u ↔ current.canBecome after = true := by
  unfold checkTransition
  split <;> simp [*]

theorem ofQuantities_eq_filled : ofQuantities filled quantity = some .filled ↔
    filled.value = quantity.value := by
  rw [← beq_iff_value]
  unfold ofQuantities
  split
  · next complete => simp [complete]
  · next unfinished => split <;> simp [unfinished]

theorem ofQuantities_some (implied : ofQuantities filled quantity = some status) :
    status = .filled ∨ status = .partiallyFilled := by
  unfold ofQuantities at implied
  grind

theorem ofQuantities_partly (positive : 0 < filled.value) (partly : filled.value < quantity.value) :
    ofQuantities filled quantity = some .partiallyFilled := by
  rw [ofQuantities, if_neg, if_pos (isPositive_iff_value.mpr positive)]
  rw [beq_iff_value]
  exact partly.ne

/-- A status that follows a report is legal, and either the quantities imply it or it is the
reported one. -/
theorem next_ok (given : current.next reported prior filled quantity = .ok after) :
    prior.value ≤ filled.value ∧ filled.value ≤ quantity.value ∧ 0 ≤ filled.value ∧
      current.canBecome after = true ∧
      (ofQuantities filled quantity = some after ∨
        ofQuantities filled quantity ≠ some .filled ∧ reported = some after ∧
          after.agreesWith (ofQuantities filled quantity) = true) := by
  unfold next at given
  split at given
  · contradiction
  · next growing =>
      split at given
      · contradiction
      · next within =>
          rw [not_or, isNegative_iff_value, not_lt, not_lt_iff_value] at within
          refine ⟨not_lt_iff_value.mp growing, within.1, within.2, ?_⟩
          dsimp only at given
          split at given
          · next complete =>
              simp only [bind_ok_iff, checkTransition_ok, pure_ok_iff, exists_const] at given
              obtain ⟨legal, rfl⟩ := given
              exact ⟨legal, .inl complete⟩
          · next unfinished =>
              split at given
              · next chosen =>
                  cases given
                  obtain ⟨rfl, holds⟩ := Option.filter_eq_some_iff.mp chosen
                  rw [Bool.and_eq_true] at holds
                  exact ⟨holds.2, .inr ⟨unfinished, rfl, holds.1⟩⟩
              · split at given
                · next chosen =>
                    cases given
                    obtain ⟨implied, legal⟩ := Option.filter_eq_some_iff.mp chosen
                    exact ⟨legal, .inl implied⟩
                · contradiction

theorem ne_new_of_canBecome (legal : current.canBecome after = true) : after ≠ .new := by
  rintro rfl
  revert legal
  cases current <;> decide

theorem not_terminal_of_canBecome (legal : current.canBecome after = true) :
    current.isTerminal = false := by
  revert legal
  cases current <;> cases after <;> decide

end OrderStatus

/-- How an order may change: its status along the table of legal changes, and the names that the
exchange gave it while it is new. -/
structure Order.Advances (order moved : Order) : Prop where
  kept : moved = { order with
    exchange := moved.exchange
    exchangeOrderId := moved.exchangeOrderId
    exchangeClientOrderId := moved.exchangeClientOrderId
    status := moved.status
    filled := moved.filled
    updatedAt := moved.updatedAt }
  legal : order.status.canBecome moved.status = true
  named : order.status ≠ .new → moved.exchange = order.exchange ∧
    moved.exchangeOrderId = order.exchangeOrderId ∧
    moved.exchangeClientOrderId = order.exchangeClientOrderId

namespace Order

variable {order moved : Order} {transition : Transition} {status : OrderStatus} {now : Instant}
  {reported : Option OrderStatus} {quantity : Decimal} {exchange exchangeOrderId : String}
  {exchangeClientOrderId : Option String}

theorem Advances.id (advances : order.Advances moved) : moved.id = order.id := by
  rw [advances.kept]

theorem Advances.account (advances : order.Advances moved) : moved.account = order.account := by
  rw [advances.kept]

theorem Advances.outboundClientOrderId (advances : order.Advances moved) :
    moved.outboundClientOrderId = order.outboundClientOrderId := by
  rw [advances.kept]
  rfl

/-- A new order has its price if and only if it is a limit order. -/
theorem create_ok {freshId : String} {command : OrderCommand}
    (created : create freshId command now = .ok order) :
    order.status = .new ∧ order.filled = .zero ∧ order.exchangeOrderId = none ∧
      order.exchangeClientOrderId = none ∧ 0 < order.quantity.value ∧
      (order.limitPrice = none ↔ order.orderType = .market) := by
  simp only [create, OrderCommand.validate, bind_ok_iff, pure_ok_iff] at created
  obtain ⟨_, ⟨_, -, _, -, _, -, _, positive, _, priced, -⟩, rfl⟩ := created
  refine ⟨rfl, rfl, rfl, rfl, ?_, ?_⟩
  · unfold requirePositive at positive
    split at positive
    · next holds => exact isPositive_iff_value.mp holds
    · contradiction
  · unfold OrderCommand.checkPrice at priced
    split at priced <;> simp_all

theorem create_createdAt {freshId : String} {command : OrderCommand}
    (created : create freshId command now = .ok order) : order.createdAt = now := by
  simp only [create, bind_ok_iff, pure_ok_iff] at created
  obtain ⟨_, -, rfl⟩ := created
  rfl

theorem acknowledge_ok
    (given : order.acknowledge exchange exchangeOrderId exchangeClientOrderId now =
      .ok (some transition, moved)) :
    order.status = .new ∧ transition = ⟨.new, .acknowledged⟩ ∧
      moved = { order with
        exchange := exchange
        exchangeOrderId := some exchangeOrderId
        exchangeClientOrderId := exchangeClientOrderId
        status := .acknowledged
        updatedAt := now } := by
  unfold acknowledge at given
  simp only [bind_ok_iff, ite_eq_iff, throw_ok_iff, pure_ok_iff] at given
  grind

/-- An acknowledgement that changes nothing has been made before. -/
theorem acknowledge_again
    (given : order.acknowledge exchange exchangeOrderId exchangeClientOrderId now =
      .ok (none, moved)) : order.status = .acknowledged := by
  unfold acknowledge at given
  simp only [bind_ok_iff, ite_eq_iff, throw_ok_iff, pure_ok_iff] at given
  grind

theorem close_ok (given : order.close status now = .ok (transition, moved)) :
    order.status.canBecome status = true ∧ transition = ⟨order.status, status⟩ ∧
      moved = { order with status := status, updatedAt := now } := by
  simp only [close, bind_ok_iff, ite_eq_iff, throw_ok_iff, pure_ok_iff,
    OrderStatus.checkTransition_ok, exists_const] at given
  grind

theorem applyReportedStatus_ok {given : OrderStatus}
    (applied : order.applyReportedStatus given now = .ok (some transition, moved)) :
    ∃ next, order.status.next (some given) order.filled order.filled order.quantity = .ok next ∧
      transition = ⟨order.status, next⟩ ∧
      moved = { order with status := next, updatedAt := now } := by
  simp only [applyReportedStatus, bind_ok_iff, ite_eq_iff, pure_ok_iff] at applied
  grind

theorem applyFill_ok {fill : FillTransition}
    (filled : order.applyFill quantity reported now = .ok (fill, moved)) :
    0 < quantity.value ∧ ∃ sum next, order.filled.add quantity = .ok sum ∧
      order.status.next reported order.filled (sum.min order.quantity) order.quantity = .ok next ∧
      fill = ⟨⟨order.status, next⟩, order.filled, sum.min order.quantity⟩ ∧
      moved = { order with
        filled := sum.min order.quantity
        status := next
        updatedAt := now } := by
  simp only [applyFill, bind_ok_iff, lift_ok_iff, pure_ok_iff, Prod.mk.injEq] at filled
  obtain ⟨_, positive, sum, added, next, follows, rfl, rfl⟩ := filled
  refine ⟨?_, sum, next, added, follows, rfl, rfl⟩
  unfold requirePositive at positive
  split at positive
  · next holds => exact isPositive_iff_value.mp holds
  · contradiction

theorem acknowledge_advances
    (given : order.acknowledge exchange exchangeOrderId exchangeClientOrderId now =
      .ok (some transition, moved)) : order.Advances moved := by
  obtain ⟨fresh, -, rfl⟩ := acknowledge_ok given
  exact ⟨rfl, by rw [fresh]; rfl, fun named => absurd fresh named⟩

theorem close_advances (given : order.close status now = .ok (transition, moved)) :
    order.Advances moved := by
  obtain ⟨legal, -, rfl⟩ := close_ok given
  exact ⟨rfl, legal, fun _ => ⟨rfl, rfl, rfl⟩⟩

theorem applyReportedStatus_advances {given : OrderStatus}
    (applied : order.applyReportedStatus given now = .ok (some transition, moved)) :
    order.Advances moved := by
  obtain ⟨next, follows, -, rfl⟩ := applyReportedStatus_ok applied
  exact ⟨rfl, (OrderStatus.next_ok follows).2.2.2.1, fun _ => ⟨rfl, rfl, rfl⟩⟩

theorem applyFill_advances {fill : FillTransition}
    (filled : order.applyFill quantity reported now = .ok (fill, moved)) :
    order.Advances moved := by
  obtain ⟨-, sum, next, -, follows, -, rfl⟩ := applyFill_ok filled
  exact ⟨rfl, (OrderStatus.next_ok follows).2.2.2.1, fun _ => ⟨rfl, rfl, rfl⟩⟩

/-- A change of an order other than by a fill, and what the audit trail calls it. -/
inductive Change (order : Order) (now : Instant) : OrderEventType → Transition → Order → Prop where
  | acknowledged {exchange exchangeOrderId : String} {exchangeClientOrderId : Option String}
      {transition : Transition} {moved : Order}
      (given : order.acknowledge exchange exchangeOrderId exchangeClientOrderId now =
        .ok (some transition, moved)) : Change order now .acknowledged transition moved
  | canceled {account : String} {transition : Transition} {moved : Order}
      (given : order.cancel account now = .ok (transition, moved)) :
      Change order now .canceled transition moved
  | rejected {transition : Transition} {moved : Order}
      (given : order.reject now = .ok (transition, moved)) :
      Change order now .rejected transition moved
  | reported {status : OrderStatus} {transition : Transition} {moved : Order}
      (other : status ≠ .acknowledged)
      (given : order.applyReportedStatus status now = .ok (some transition, moved)) :
      Change order now .statusReconciled transition moved

theorem cancel_ok {account : String} (given : order.cancel account now = .ok (transition, moved)) :
    order.account = account ∧ order.close .canceled now = .ok (transition, moved) := by
  simp only [cancel, bind_ok_iff, ite_eq_iff, throw_ok_iff] at given
  grind

theorem Change.advances {eventType : OrderEventType}
    (change : order.Change now eventType transition moved) : order.Advances moved := by
  cases change with
  | acknowledged given => exact acknowledge_advances given
  | canceled given => exact close_advances (cancel_ok given).2
  | rejected given => exact close_advances given
  | reported _ given => exact applyReportedStatus_advances given

/-- Only fills change the filled quantity. -/
theorem Change.same_filled {eventType : OrderEventType}
    (change : order.Change now eventType transition moved) :
    moved.filled = order.filled ∧ moved.updatedAt = now ∧ eventType ≠ .executionApplied := by
  cases change with
  | acknowledged given =>
      obtain ⟨-, -, rfl⟩ := acknowledge_ok given
      exact ⟨rfl, rfl, by decide⟩
  | canceled given =>
      obtain ⟨-, -, rfl⟩ := close_ok (cancel_ok given).2
      exact ⟨rfl, rfl, by decide⟩
  | rejected given =>
      obtain ⟨-, -, rfl⟩ := close_ok given
      exact ⟨rfl, rfl, by decide⟩
  | reported _ given =>
      obtain ⟨next, -, -, rfl⟩ := applyReportedStatus_ok given
      exact ⟨rfl, rfl, by decide⟩

end Order

end SpotSettlement
