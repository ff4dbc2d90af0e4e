import Mathlib.Logic.Relation
import SpotSettlement.Proofs.Order.Changes

namespace SpotSettlement

/-! # The progress of an order

The status of an order and what is filled of it agree, and keep agreeing whatever is done to the
order.  What is filled never goes back, and nothing of an order that is closed changes any more.
-/

open Decimal

namespace OrderStatus

variable {current after : OrderStatus} {reported : Option OrderStatus}
  {prior filled quantity : Decimal}

/-- The status agrees with how much of the quantity is filled. -/
structure Fits (status : OrderStatus) (filled quantity : Decimal) : Prop where
  nonneg : 0 ≤ filled.value
  within : filled.value ≤ quantity.value
  complete : status = .filled ↔ filled.value = quantity.value
  partly : status = .partiallyFilled → 0 < filled.value
  unfilled : status = .new → filled.value = 0

theorem pos_of_partiallyFilled
    (implied : ofQuantities filled quantity = some .partiallyFilled) : 0 < filled.value := by
  rw [← isPositive_iff_value]
  unfold ofQuantities at implied
  grind

theorem next_fits (given : current.next reported prior filled quantity = .ok after) :
    after.Fits filled quantity := by
  obtain ⟨-, within, nonneg, legal, choice⟩ := next_ok given
  have known := ne_new_of_canBecome legal
  obtain implied | ⟨incomplete, -, agrees⟩ := choice
  · refine ⟨nonneg, within, ?_, ?_, fun new => absurd new known⟩
    · rw [← ofQuantities_eq_filled, implied, Option.some.injEq]
    · rintro rfl
      exact pos_of_partiallyFilled implied
  · refine ⟨nonneg, within, ?_, ?_, fun new => absurd new known⟩
    · rw [← ofQuantities_eq_filled]
      constructor
      · rintro rfl
        exact absurd (beq_iff_eq.mp agrees) incomplete
      · intro complete
        exact absurd complete incomplete
    · rintro rfl
      exact pos_of_partiallyFilled (beq_iff_eq.mp agrees)

/-- A status that says nothing about the quantities may follow any that agrees with them. -/
theorem Fits.of_canBecome (fits : current.Fits filled quantity)
    (legal : current.canBecome after = true) (unfilled : after ≠ .filled)
    (idle : after ≠ .partiallyFilled) : after.Fits filled quantity where
  nonneg := fits.nonneg
  within := fits.within
  complete := by
    have incomplete : filled.value ≠ quantity.value := by
      intro complete
      rw [fits.complete.mpr complete] at legal
      exact absurd legal (by cases after <;> decide)
    exact iff_of_false unfilled incomplete
  partly := fun partly => absurd partly idle
  unfilled := fun new => absurd new (ne_new_of_canBecome legal)

end OrderStatus

namespace Order

variable {order moved later : Order} {now : Instant} {eventType : OrderEventType}
  {transition : Transition}

/-- What the order becomes by a fill or by another change. -/
inductive Becomes (order : Order) : Order → Prop where
  | changed {now : Instant} {eventType : OrderEventType} {transition : Transition} {moved : Order}
      (change : order.Change now eventType transition moved) : Becomes order moved
  | filled {quantity : Decimal} {reported : Option OrderStatus} {now : Instant}
      {fill : FillTransition} {moved : Order}
      (advance : order.applyFill quantity reported now = .ok (fill, moved)) : Becomes order moved

/-- What the order comes to, however often it is changed. -/
abbrev ComesTo : Order → Order → Prop := Relation.ReflTransGen Becomes

theorem Becomes.advances (becomes : order.Becomes moved) : order.Advances moved := by
  cases becomes with
  | changed change => exact change.advances
  | filled advance => exact applyFill_advances advance

/-- The status of the order agrees with its quantities. -/
def Consistent (order : Order) : Prop := order.status.Fits order.filled order.quantity

theorem create_consistent {freshId : String} {command : OrderCommand}
    (created : create freshId command now = .ok order) : order.Consistent := by
  obtain ⟨new, unfilled, -, -, positive, -⟩ := create_ok created
  have zero : order.filled.value = 0 := by rw [unfilled, value_zero]
  refine ⟨zero.ge, zero.trans_le positive.le, ?_, ?_, fun _ => zero⟩
  · rw [new, zero]
    exact iff_of_false nofun positive.ne
  · rw [new]
    nofun

theorem Change.consistent (change : order.Change now eventType transition moved)
    (consistent : order.Consistent) : moved.Consistent := by
  have legal := change.advances.legal
  cases change with
  | acknowledged given =>
      obtain ⟨-, -, rfl⟩ := acknowledge_ok given
      exact consistent.of_canBecome legal nofun nofun
  | canceled given =>
      obtain ⟨-, -, rfl⟩ := close_ok (cancel_ok given).2
      exact consistent.of_canBecome legal nofun nofun
  | rejected given =>
      obtain ⟨-, -, rfl⟩ := close_ok given
      exact consistent.of_canBecome legal nofun nofun
  | reported _ given =>
      obtain ⟨next, follows, -, rfl⟩ := applyReportedStatus_ok given
      exact OrderStatus.next_fits follows

theorem Becomes.consistent (becomes : order.Becomes moved) (consistent : order.Consistent) :
    moved.Consistent := by
  cases becomes with
  | changed change => exact change.consistent consistent
  | filled advance =>
      obtain ⟨-, sum, next, -, follows, -, rfl⟩ := applyFill_ok advance
      exact OrderStatus.next_fits follows

theorem Becomes.filled_le (becomes : order.Becomes moved) :
    order.filled.value ≤ moved.filled.value := by
  cases becomes with
  | changed change => rw [change.same_filled.1]
  | filled advance =>
      obtain ⟨-, sum, next, -, follows, -, rfl⟩ := applyFill_ok advance
      exact (OrderStatus.next_ok follows).1

/-- The second is what has become of the first: what the caller asked for is the same, no less of it
is filled, an order that its exchange knows has stayed there, and nothing at all has changed if the
first was closed. -/
structure LeadsTo (order later : Order) : Prop where
  kept : later = { order with
    exchange := later.exchange
    exchangeOrderId := later.exchangeOrderId
    exchangeClientOrderId := later.exchangeClientOrderId
    status := later.status
    filled := later.filled
    updatedAt := later.updatedAt }
  filled_le : order.filled.value ≤ later.filled.value
  known : order.status ≠ .new → later.status ≠ .new ∧ later.exchange = order.exchange
  closed : order.status.isTerminal = true → later = order

theorem LeadsTo.refl (order : Order) : order.LeadsTo order :=
  ⟨rfl, le_refl _, fun known => ⟨known, rfl⟩, fun _ => rfl⟩

theorem LeadsTo.trans (first : order.LeadsTo moved) (second : moved.LeadsTo later) :
    order.LeadsTo later where
  kept := by rw [second.kept, first.kept]
  filled_le := first.filled_le.trans second.filled_le
  known settled := by
    obtain ⟨stays, exchange⟩ := first.known settled
    obtain ⟨stillStays, sameExchange⟩ := second.known stays
    exact ⟨stillStays, sameExchange.trans exchange⟩
  closed terminal := by
    have same := first.closed terminal
    subst same
    exact second.closed terminal

theorem LeadsTo.id (leads : order.LeadsTo later) : later.id = order.id := by
  rw [leads.kept]

theorem LeadsTo.account (leads : order.LeadsTo later) : later.account = order.account := by
  rw [leads.kept]

theorem Becomes.leadsTo (becomes : order.Becomes moved) : order.LeadsTo moved where
  kept := becomes.advances.kept
  filled_le := becomes.filled_le
  known settled :=
    ⟨OrderStatus.ne_new_of_canBecome becomes.advances.legal, (becomes.advances.named settled).1⟩
  closed terminal := by
    rw [OrderStatus.not_terminal_of_canBecome becomes.advances.legal] at terminal
    contradiction

theorem ComesTo.leadsTo (comes : order.ComesTo later) : order.LeadsTo later := by
  induction comes with
  | refl => exact .refl order
  | tail _ last ih => exact ih.trans last.leadsTo

end Order

end SpotSettlement
