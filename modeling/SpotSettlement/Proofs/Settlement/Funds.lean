import SpotSettlement.Proofs.Store.Wallets
import SpotSettlement.Settlement.Funds

namespace SpotSettlement

/-! # What the funds of an order do to the store

Reserving, releasing and settling change balances and reservations and nothing else, the balances
of one account only, and keep all of them at zero or above.  If nothing rounds, what leaves the
reserved parts is what the reservation loses, and a settled fill changes the funds of the account by
its movements.
-/

open Decimal

variable {store after : Store} {order : Order} {pair : AssetPair} {now : Instant}
  {outcome : Option WalletBalance} {orderId account : String} {status : ReservationStatus}

/-- No balance has a part below zero. -/
def Store.Solvent (store : Store) : Prop := ∀ balance ∈ store.balances, balance.Nonnegative

theorem Store.Solvent.balanceOf (solvent : store.Solvent) (account asset : String) (now : Instant) :
    (store.balanceOf account asset now).Nonnegative := by
  unfold Store.balanceOf
  cases found : store.balance? account asset with
  | none => simp [WalletBalance.empty, WalletBalance.Nonnegative]
  | some balance => exact solvent balance (List.mem_of_find?_eq_some found)

theorem Store.Solvent.withBalance {balance : WalletBalance} (solvent : store.Solvent)
    (nonneg : balance.Nonnegative) : (store.withBalance balance).Solvent := by
  intro other member
  obtain rfl | earlier := Store.mem_of_mem_putBalance member
  · exact nonneg
  · exact solvent other earlier

/-- The sum of the movements in one asset. -/
def AssetTotals.sumOf (asset : String) (movements : List (String × Decimal)) : ℚ :=
  ((movements.filter (·.1 == asset)).map (·.2.value)).sum

theorem AssetTotals.sumOf_cons (asset : String) (movement : String × Decimal)
    (rest : List (String × Decimal)) :
    sumOf asset (movement :: rest) =
      (if movement.1 = asset then movement.2.value else 0) + sumOf asset rest := by
  by_cases same : movement.1 = asset <;> simp [sumOf, same]

namespace Funds

/-- An order that requires funds takes them from what its account has available, and holds them
under a new reservation. -/
theorem reserveFor_cases (done : (reserveFor order pair now).run store = .ok (outcome, after)) :
    (order.reservationRequirement pair = .ok none ∧ outcome = none ∧ after = store) ∨
    ∃ asset amount balance, order.reservationRequirement pair = .ok (some (asset, amount)) ∧
      (store.balanceOf order.account asset now).reserve amount now = .ok balance ∧
      outcome = some balance ∧
      after = (store.withBalance balance).withNewReservation (.opened
        (Store.identifier (store.minted + 1)) order.account asset amount order.id now) := by
  unfold reserveFor at done
  rw [Work.bind_ok] at done
  obtain ⟨requirement, _, lifted, done⟩ := done
  obtain ⟨required, rfl⟩ := Work.lift_ok.mp lifted
  cases requirement with
  | none =>
      obtain ⟨rfl, rfl⟩ := Work.pure_ok.mp done
      exact .inl ⟨required, rfl, rfl⟩
  | some requirement =>
      obtain ⟨asset, amount⟩ := requirement
      simp only [Work.refuse_if_ok, Work.bind_ok, Work.failing_ok, Store.claimBalance_ok,
        Store.saveBalance_ok, Store.mint_ok, Store.insertReservation_ok, Work.pure_ok] at done
      obtain ⟨-, _, _, ⟨rfl, rfl⟩, balance, _, ⟨reserved, rfl⟩, _, _, rfl, _, _, ⟨rfl, rfl⟩, _, _,
        ⟨-, rfl⟩, rfl, rfl⟩ := done
      refine .inr ⟨asset, amount, balance, required, reserved, rfl, ?_⟩
      have keys := store.balanceOf_key order.account asset now
      obtain ⟨-, -, _, -, _, -, same⟩ := WalletBalance.reserve_ok.mp reserved
      have overwritten : (store.balanceOf order.account asset now).account = balance.account ∧
          (store.balanceOf order.account asset now).asset = balance.asset := by
        rw [← same]
        exact ⟨rfl, rfl⟩
      rw [Store.withBalance_withBalance overwritten]
      rfl

/-- The active reservation of an order is closed, and the balance gets back what was left. -/
theorem releaseFor_cases
    (done : (releaseFor orderId status now).run store = .ok (outcome, after)) :
    (store.activeReservation? orderId = none ∧ outcome = none ∧ after = store) ∨
    ∃ held balance, store.activeReservation? orderId = some held ∧ outcome = some balance ∧
      (held.amount.value ≤ 0 ∧ balance = store.balanceOf held.account held.asset now ∨
        0 < held.amount.value ∧
          (store.balanceOf held.account held.asset now).release held.amount now = .ok balance) ∧
      after = (store.withBalance balance).withReservation
        { held with amount := .zero, status, updatedAt := now } := by
  unfold releaseFor at done
  rw [Work.get_bind_ok] at done
  cases active : store.activeReservation? orderId with
  | none =>
      simp only [active, Work.pure_ok] at done
      obtain ⟨rfl, rfl⟩ := done
      exact .inl ⟨rfl, rfl, rfl⟩
  | some held =>
      simp only [active, Work.bind_ok, Store.claimBalance_ok, Work.lift_ok, Prod.exists] at done
      obtain ⟨_, _, ⟨rfl, rfl⟩, remainder, closed, _, ⟨closing, rfl⟩, done⟩ := done
      obtain ⟨-, rfl, rfl⟩ := WalletReservation.close_ok.mp closing
      refine .inr ⟨held, ?_⟩
      split at done
      · next positive =>
          rw [isPositive_iff_value] at positive
          simp only [Work.bind_ok, Work.failing_ok, Store.saveBalance_ok, Store.saveReservation_ok,
            Work.pure_ok] at done
          obtain ⟨balance, _, ⟨released, rfl⟩, _, _, rfl, _, _, ⟨rfl, rfl⟩, _, _, ⟨-, rfl⟩, rfl,
            rfl⟩ := done
          refine ⟨balance, rfl, rfl, .inr ⟨positive, released⟩, ?_⟩
          obtain ⟨-, -, _, -, _, -, same⟩ := WalletBalance.release_ok.mp released
          have overwritten : (store.balanceOf held.account held.asset now).account =
              balance.account ∧
              (store.balanceOf held.account held.asset now).asset = balance.asset := by
            rw [← same]
            exact ⟨rfl, rfl⟩
          rw [Store.withBalance_withBalance overwritten]
      · next empty =>
          rw [isPositive_iff_value, not_lt] at empty
          simp only [Work.bind_ok, Store.saveReservation_ok, Work.pure_ok] at done
          obtain ⟨_, _, ⟨rfl, rfl⟩, _, _, ⟨-, rfl⟩, rfl, rfl⟩ := done
          exact ⟨_, rfl, rfl, .inl ⟨empty, rfl⟩, rfl⟩

variable {deltas : AssetTotals} {delta : String × Decimal} {progress next : Progress}
  {balances : List WalletBalance}

/-- The reservation that a movement in an asset may draw on. -/
def Matches (asset : String) (held : Option WalletReservation)
    (matching : Option WalletReservation) : Prop :=
  (∃ reservation, held = some reservation ∧ reservation.asset = asset ∧ matching = held) ∨
    (∀ reservation, held = some reservation → reservation.asset ≠ asset) ∧ matching = none

theorem matches_filter (asset : String) (held : Option WalletReservation) :
    Matches asset held (held.filter (·.asset == asset)) := by
  cases held with
  | none => exact .inr ⟨nofun, rfl⟩
  | some reservation =>
      by_cases same : reservation.asset = asset
      · exact .inl ⟨reservation, rfl, same, by simp [same]⟩
      · exact .inr ⟨by simpa using same, by simp [same]⟩

/-- Settling one movement writes one balance. -/
theorem settleDelta_cases
    (done : (settleDelta account now progress delta).run store = .ok (next, after)) :
    ∃ settled, (store.balanceOf account delta.1 now).applyDelta
        (progress.reservation.filter (·.asset == delta.1)) delta.2 now = .ok settled ∧
      after = store.withBalance settled.balance ∧
      next.reservation = (if (progress.reservation.filter (·.asset == delta.1)).isSome
        then settled.reservation else progress.reservation) ∧
      next.drawn = (progress.drawn || settled.split.fromReservation.isPositive) ∧
      next.balances = progress.balances ++ [settled.balance] := by
  simp only [settleDelta, Work.bind_ok, Store.claimBalance_ok, Work.failing_ok,
    Store.saveBalance_ok, Work.pure_ok] at done
  obtain ⟨_, _, ⟨rfl, rfl⟩, settled, _, ⟨moved, rfl⟩, _, _, rfl, rfl, rfl⟩ := done
  refine ⟨settled, moved, ?_, rfl, rfl, rfl⟩
  have settles := WalletBalance.applyDelta_settles moved
  exact Store.withBalance_withBalance ⟨settles.account.symm, settles.asset.symm⟩

/-- How settling movements changes the store, and the reservation that they may draw on. -/
structure Advance (account : String) (store : Store) (progress : Progress) (after : Store)
    (next : Progress) : Prop where
  tables : after = { store with balances := after.balances }
  elsewhere : ∀ other asset, other ≠ account →
    after.balance? other asset = store.balance? other asset
  solvent : store.Solvent → after.Solvent
  drawn : Option.Rel WalletReservation.Drawn progress.reservation next.reservation
  untouched : next.drawn = false → next.reservation = progress.reservation ∧ progress.drawn = false
  held_nonneg : 0 ≤ heldBy progress.reservation → 0 ≤ heldBy next.reservation

theorem Advance.refl (account : String) (store : Store) (progress : Progress) :
    Advance account store progress store progress where
  tables := rfl
  elsewhere _ _ _ := rfl
  solvent := id
  drawn := by
    cases progress.reservation with
    | none => exact .none
    | some held => exact .some (.refl held)
  untouched idle := ⟨rfl, idle⟩
  held_nonneg := id

theorem Advance.trans {middle : Store} {midway : Progress}
    (first : Advance account store progress middle midway)
    (second : Advance account middle midway after next) :
    Advance account store progress after next where
  tables := by rw [second.tables, first.tables]
  elsewhere other asset different :=
    (second.elsewhere other asset different).trans (first.elsewhere other asset different)
  solvent start := second.solvent (first.solvent start)
  drawn := by
    have earlier := first.drawn
    have later := second.drawn
    revert earlier later
    cases progress.reservation <;> cases midway.reservation <;> cases next.reservation <;>
      rintro ⟨earlier⟩ ⟨later⟩
    · exact .none
    · next earlier later => exact .some (earlier.trans later)
  untouched idle := by
    obtain ⟨same, midwayIdle⟩ := second.untouched idle
    obtain ⟨sameBefore, idleBefore⟩ := first.untouched midwayIdle
    exact ⟨same.trans sameBefore, idleBefore⟩
  held_nonneg start := second.held_nonneg (first.held_nonneg start)

theorem settleDelta_advance
    (done : (settleDelta account now progress delta).run store = .ok (next, after)) :
    Advance account store progress after next := by
  obtain ⟨settled, moved, rfl, reservation, drawn, -⟩ := settleDelta_cases done
  have settles := WalletBalance.applyDelta_settles moved
  have matched := matches_filter delta.1 progress.reservation
  generalize progress.reservation.filter (·.asset == delta.1) = matching
    at moved reservation settles matched
  have keys := store.balanceOf_key account delta.1 now
  have elsewhere : ∀ other asset, other ≠ account →
      (store.withBalance settled.balance).balance? other asset = store.balance? other asset := by
    intro other asset different
    rw [Store.balance?_withBalance, if_neg]
    rw [settles.account, keys.1]
    exact fun same => different same.1.symm
  have solvent : store.Solvent → (store.withBalance settled.balance).Solvent := fun start =>
    start.withBalance (settles.nonnegative (start.balanceOf account delta.1 now))
  obtain ⟨held, present, -, rfl⟩ | ⟨-, rfl⟩ := matched
  · rw [present, Option.isSome_some, if_pos rfl] at reservation
    refine ⟨rfl, elsewhere, solvent, ?_, ?_, ?_⟩
    · rw [reservation]
      exact settles.drawn
    · intro idle
      rw [drawn, Bool.or_eq_false_iff, ← Bool.not_eq_true, ← Bool.not_eq_true,
        isPositive_iff_value, not_lt] at idle
      rw [reservation]
      exact ⟨settles.untouched idle.2, by simpa using idle.1⟩
    · rw [reservation]
      exact settles.held_nonneg
  · rw [Option.isSome_none, if_neg Bool.false_ne_true] at reservation
    refine ⟨rfl, elsewhere, solvent, ?_, ?_, ?_⟩
    · rw [reservation]
      exact (Advance.refl account store progress).drawn
    · intro idle
      rw [drawn, Bool.or_eq_false_iff] at idle
      exact ⟨reservation, idle.1⟩
    · rw [reservation]
      exact id

theorem settleAll_advance
    (done : (deltas.foldlM (settleDelta account now) progress).run store = .ok (next, after)) :
    Advance account store progress after next := by
  induction deltas generalizing store progress with
  | nil =>
      obtain ⟨rfl, rfl⟩ := Work.pure_ok.mp done
      exact .refl account store progress
  | cons delta rest ih =>
      rw [List.foldlM_cons, Work.bind_ok] at done
      obtain ⟨midway, middle, first, others⟩ := done
      exact (settleDelta_advance first).trans (ih others)

/-- A settled fill writes balances, and the reservation of the order if it was drawn on. -/
theorem settleFill_cases
    (done : (settleFill account orderId deltas now).run store = .ok (balances, after)) :
    ∃ next middle, (deltas.foldlM (settleDelta account now)
        ⟨store.activeReservation? orderId, false, []⟩).run store = .ok (next, middle) ∧
      balances = next.balances ∧
      (next.reservation = store.activeReservation? orderId ∧ after = middle ∨
        ∃ drawn, next.reservation = some drawn ∧ after = middle.withReservation drawn) := by
  unfold settleFill at done
  rw [Work.get_bind_ok, Work.bind_ok] at done
  obtain ⟨next, middle, settling, done⟩ := done
  have advance := settleAll_advance settling
  refine ⟨next, middle, settling, ?_⟩
  cases reservation : next.reservation with
  | none =>
      simp only [reservation, Work.pure_ok] at done
      have drawn := advance.drawn
      rw [reservation] at drawn
      cases active : store.activeReservation? orderId with
      | none => exact ⟨done.1.symm, .inl ⟨rfl, done.2.symm⟩⟩
      | some held =>
          rw [active] at drawn
          contradiction
  | some drawn =>
      simp only [reservation, Work.run_ite, ite_eq_iff, Work.bind_ok, Store.saveReservation_ok,
        Work.pure_ok] at done
      obtain ⟨-, _, _, ⟨-, rfl⟩, rfl, rfl⟩ | ⟨idle, rfl, rfl⟩ := done
      · exact ⟨rfl, .inr ⟨drawn, rfl, rfl⟩⟩
      · obtain ⟨same, -⟩ := advance.untouched (by simpa using idle)
        exact ⟨rfl, .inl ⟨reservation.symm.trans same, rfl⟩⟩

end Funds

end SpotSettlement
