import SpotSettlement.Proofs.Ledger.NetMovements
import SpotSettlement.Proofs.Settlement.Conservation
import SpotSettlement.Proofs.Wallet.Draws

namespace SpotSettlement

/-! # Settling what a reservation covers

Settling the movements of a fill draws at most what they take out of the account in the asset of the
reservation.  If the reservation and the reserved part of its balance cover what they take out, and
they take out nothing else, settling succeeds and leaves every available part at least as great.
-/

open Decimal

namespace Store

variable {store after : Store} {account asset : String} {balance : WalletBalance} {now : Instant}

def availableOf (store : Store) (account asset : String) : ℚ :=
  match store.balance? account asset with
  | some balance => balance.available.value
  | none => 0

theorem balanceOf_available (store : Store) (account asset : String) (now : Instant) :
    (store.balanceOf account asset now).available.value = store.availableOf account asset := by
  unfold balanceOf availableOf
  cases store.balance? account asset <;> simp [WalletBalance.empty]

theorem availableOf_withBalance : (store.withBalance balance).availableOf account asset =
    if balance.account = account ∧ balance.asset = asset then balance.available.value
    else store.availableOf account asset := by
  unfold availableOf
  rw [balance?_withBalance]
  by_cases written : balance.account = account ∧ balance.asset = asset
  · rw [if_pos written, if_pos written]
  · rw [if_neg written, if_neg written]

end Store

namespace Funds

variable {store after : Store} {account orderId : String} {now : Instant} {order : Order}
  {progress next : Progress} {deltas : AssetTotals} {delta : String × Decimal}
  {balances : List WalletBalance}

theorem Matches.nonneg {asset : String} {held matching : Option WalletReservation}
    (matched : Matches asset held matching) (nonneg : 0 ≤ heldBy held) : 0 ≤ heldBy matching := by
  obtain ⟨_, -, -, rfl⟩ | ⟨-, rfl⟩ := matched
  · exact nonneg
  · exact le_refl 0

theorem settleDelta_draws_le
    (exact : Exact ((store.balanceOf account delta.1 now).deltaArithmetic
      (progress.reservation.filter (·.asset == delta.1)) delta.2))
    (solvent : store.Solvent) (held : 0 ≤ heldBy progress.reservation)
    (done : (settleDelta account now progress delta).run store = .ok (next, after))
    (asset : String) :
    heldIn asset progress.reservation - heldIn asset next.reservation ≤
      if delta.1 = asset then max 0 (-delta.2.value) else 0 := by
  obtain ⟨settled, moved, rfl, reservation, -, -⟩ := settleDelta_cases done
  have matched := matches_filter delta.1 progress.reservation
  have drawn := (WalletBalance.applyDelta_settles moved).drawn
  rw [reservation, matched.heldIn_sub drawn asset]
  split
  · exact WalletBalance.applyDelta_draws_le exact (solvent.balanceOf account delta.1 now)
      (matched.nonneg held) moved
  · exact le_refl 0

/-- What the movements take out of the account is held by the reservation in their asset, and is in
the reserved part of the balance. -/
def CoversDeltas (account : String) (store : Store) (progress : Progress) (deltas : AssetTotals) :
    Prop :=
  ∀ delta ∈ deltas, delta.2.value < 0 → ∃ held, progress.reservation = some held ∧
    held.asset = delta.1 ∧ held.status = .active ∧ -delta.2.value ≤ held.amount.value ∧
    -delta.2.value ≤ store.reservedOf account delta.1

theorem settleDelta_covered
    (exact : Exact ((store.balanceOf account delta.1 now).deltaArithmetic
      (progress.reservation.filter (·.asset == delta.1)) delta.2))
    (solvent : store.Solvent) (held : 0 ≤ heldBy progress.reservation)
    (covers : CoversDeltas account store progress [delta]) :
    ∃ next after, (settleDelta account now progress delta).run store = .ok (next, after) ∧
      ∀ asset, after.availableOf account asset = store.availableOf account asset +
          (if delta.1 = asset then max 0 delta.2.value else 0) ∧
        heldIn asset next.reservation = heldIn asset progress.reservation -
          if delta.1 = asset then max 0 (-delta.2.value) else 0 := by
  have matched := matches_filter delta.1 progress.reservation
  have nonneg := solvent.balanceOf account delta.1 now
  have covered : (store.balanceOf account delta.1 now).CoversDelta
      (progress.reservation.filter (·.asset == delta.1)) delta.2 := by
    intro negative
    obtain ⟨reservation, present, same, active, within, reserved⟩ :=
      covers delta (List.mem_singleton_self delta) negative
    rw [← store.balanceOf_reserved account delta.1 now] at reserved
    exact ⟨reservation, by simp [present, same], active, within, reserved⟩
  obtain ⟨settled, moved⟩ := WalletBalance.applyDelta_exists exact nonneg (covered.canSettle nonneg) now
  obtain ⟨available, left⟩ :=
    WalletBalance.applyDelta_covered exact nonneg (matched.nonneg held) covered moved
  obtain ⟨next, after, done⟩ : ∃ next after,
      (settleDelta account now progress delta).run store = .ok (next, after) := by
    simp only [settleDelta, Work.bind_ok, Store.claimBalance_ok, Work.failing_ok,
      Store.saveBalance_ok, Work.pure_ok]
    exact ⟨_, _, _, _, ⟨rfl, rfl⟩, settled, _, ⟨moved, rfl⟩, (), _, rfl, rfl, rfl⟩
  refine ⟨next, after, done, ?_⟩
  obtain ⟨same, again, rfl, reservation, -, -⟩ := settleDelta_cases done
  obtain rfl := Except.ok.inj (moved.symm.trans again)
  have settles := WalletBalance.applyDelta_settles moved
  have keys := store.balanceOf_key account delta.1 now
  intro asset
  have drew := matched.heldIn_sub settles.drawn asset
  rw [← reservation] at drew
  rw [Store.availableOf_withBalance, settles.account, settles.asset, keys.1, keys.2]
  by_cases here : delta.1 = asset
  · subst here
    rw [store.balanceOf_available] at available
    simp only [and_self, if_true] at drew ⊢
    exact ⟨available, by linarith⟩
  · simp only [here, and_false, if_false] at drew ⊢
    exact ⟨(add_zero _).symm, by linarith⟩

theorem settleAll_draws_le (exact : Exact (settleArithmetic account now deltas progress store))
    (solvent : store.Solvent) (held : 0 ≤ heldBy progress.reservation)
    (unique : (deltas.map (·.1)).Nodup)
    (done : (deltas.foldlM (settleDelta account now) progress).run store = .ok (next, after))
    (asset : String) :
    heldIn asset progress.reservation - heldIn asset next.reservation ≤
      max 0 (-AssetTotals.sumOf asset deltas) := by
  induction deltas generalizing store progress with
  | nil =>
      obtain ⟨rfl, rfl⟩ := Work.pure_ok.mp done
      simp [AssetTotals.sumOf]
  | cons delta rest ih =>
      rw [List.foldlM_cons, Work.bind_ok] at done
      obtain ⟨midway, middle, first, others⟩ := done
      rw [settleArithmetic, first, exact_append_iff] at exact
      have advance := settleDelta_advance first
      have one := settleDelta_draws_le exact.1 solvent held first asset
      have more := ih exact.2 (advance.solvent solvent) (advance.held_nonneg held)
        (List.nodup_cons.mp unique).2 others
      have total := AssetTotals.apply_sumOf_cons (fun sum => max 0 (-sum)) (by simp) unique asset
      rw [total]
      linarith

/-- Settling one movement leaves what covers the movements of other assets. -/
theorem CoversDeltas.after_first {rest : AssetTotals}
    (covers : CoversDeltas account store progress (delta :: rest))
    (unique : ((delta :: rest).map (·.1)).Nodup)
    (done : (settleDelta account now progress delta).run store = .ok (next, after)) :
    CoversDeltas account after next rest := by
  intro other member negative
  obtain ⟨held, present, same, active, within, reserved⟩ :=
    covers other (List.mem_cons_of_mem delta member) negative
  have apart : delta.1 ≠ other.1 := by
    intro shared
    rw [List.map_cons, List.nodup_cons] at unique
    exact unique.1 (shared ▸ List.mem_map_of_mem member)
  obtain ⟨settled, moved, rfl, reservation, -, -⟩ := settleDelta_cases done
  have settles := WalletBalance.applyDelta_settles moved
  have keys := store.balanceOf_key account delta.1 now
  have unmatched : progress.reservation.filter (·.asset == delta.1) = none := by
    simp [present, same, Ne.symm apart]
  rw [unmatched, Option.isSome_none, if_neg Bool.false_ne_true] at reservation
  refine ⟨held, reservation.trans present, same, active, within, ?_⟩
  rw [Store.reservedOf_withBalance, settles.asset, keys.2, if_neg fun written => apart written.2]
  exact reserved

theorem settleAll_covered (exact : Exact (settleArithmetic account now deltas progress store))
    (solvent : store.Solvent) (held : 0 ≤ heldBy progress.reservation)
    (unique : (deltas.map (·.1)).Nodup) (covers : CoversDeltas account store progress deltas) :
    ∃ next after, (deltas.foldlM (settleDelta account now) progress).run store =
        .ok (next, after) ∧
      ∀ asset, after.availableOf account asset =
          store.availableOf account asset + max 0 (AssetTotals.sumOf asset deltas) ∧
        heldIn asset next.reservation = heldIn asset progress.reservation -
          max 0 (-AssetTotals.sumOf asset deltas) := by
  induction deltas generalizing store progress with
  | nil => exact ⟨progress, store, rfl, by simp [AssetTotals.sumOf]⟩
  | cons delta rest ih =>
      rw [settleArithmetic, exact_append_iff] at exact
      have first : CoversDeltas account store progress [delta] := by
        intro other member
        rw [List.mem_singleton.mp member]
        exact covers delta List.mem_cons_self
      obtain ⟨midway, middle, done, one⟩ := settleDelta_covered exact.1 solvent held first
      rw [done] at exact
      have advance := settleDelta_advance done
      obtain ⟨next, after, others, more⟩ := ih exact.2 (advance.solvent solvent)
        (advance.held_nonneg held) (List.nodup_cons.mp unique).2 (covers.after_first unique done)
      refine ⟨next, after, ?_, ?_⟩
      · rw [List.foldlM_cons, Work.bind_ok]
        exact ⟨midway, middle, done, others⟩
      · intro asset
        have into := AssetTotals.apply_sumOf_cons (fun sum => max 0 sum) (by simp) unique asset
        have out := AssetTotals.apply_sumOf_cons (fun sum => max 0 (-sum)) (by simp) unique asset
        obtain ⟨availableOne, heldOne⟩ := one asset
        obtain ⟨availableMore, heldMore⟩ := more asset
        rw [into, out]
        constructor <;> linarith

/-- The active reservation of an order after a fill is the one that the movements have left. -/
theorem settleFill_active
    (done : (settleFill account orderId deltas now).run store = .ok (balances, after)) :
    ∃ next middle, (deltas.foldlM (settleDelta account now)
        ⟨store.activeReservation? orderId, false, []⟩).run store = .ok (next, middle) ∧
      after.activeReservation? orderId = next.reservation ∧
      after.balances = middle.balances := by
  obtain ⟨next, middle, settling, -, saved⟩ := settleFill_cases done
  have advance := settleAll_advance settling
  have unwritten : middle.activeReservation? orderId = store.activeReservation? orderId := by
    rw [advance.tables]
    rfl
  refine ⟨next, middle, settling, ?_⟩
  obtain ⟨same, rfl⟩ | ⟨drawn, reservation, rfl⟩ := saved
  · exact ⟨unwritten.trans same.symm, rfl⟩
  · have related := advance.drawn
    rw [reservation] at related ⊢
    cases active : store.activeReservation? orderId with
    | none => rw [active] at related; contradiction
    | some held =>
        rw [active] at related
        obtain ⟨kept⟩ := related
        exact ⟨Store.activeReservation?_withReservation (unwritten.trans active) kept, rfl⟩

theorem settleFill_drawn
    (done : (settleFill account orderId deltas now).run store = .ok (balances, after)) :
    Option.Rel WalletReservation.Drawn (store.activeReservation? orderId)
      (after.activeReservation? orderId) := by
  obtain ⟨next, middle, settling, active, -⟩ := settleFill_active done
  rw [active]
  exact (settleAll_advance settling).drawn

theorem settleFill_exists {middle : Store}
    (settling : (deltas.foldlM (settleDelta account now)
      ⟨store.activeReservation? orderId, false, []⟩).run store = .ok (next, middle)) :
    ∃ balances after,
      (settleFill account orderId deltas now).run store = .ok (balances, after) := by
  have advance := settleAll_advance settling
  unfold settleFill
  simp only [Work.get_bind_ok]
  simp only [Work.bind_ok]
  cases reservation : next.reservation with
  | none =>
      refine ⟨next.balances, middle, next, middle, settling, ?_⟩
      simp only [reservation]
      rfl
  | some drawn =>
      have related := advance.drawn
      rw [reservation] at related
      cases active : store.activeReservation? orderId with
      | none => rw [active] at related; contradiction
      | some held =>
          rw [active] at related
          obtain ⟨kept⟩ := related
          obtain ⟨member, -, -⟩ := Store.activeReservation?_some active
          have present : middle.reservations.any (·.id == drawn.id) = true := by
            rw [advance.tables]
            exact List.any_eq_true.mpr ⟨held, member, by simp [kept.id]⟩
          have saved : (Store.saveReservation drawn).run middle =
              .ok ((), middle.withReservation drawn) :=
            Store.saveReservation_ok.mpr ⟨present, rfl⟩
          refine ⟨next.balances, if next.drawn then middle.withReservation drawn else middle, next,
            middle, active ▸ settling, ?_⟩
          simp only [reservation, Work.run_ite]
          cases next.drawn with
          | false => rfl
          | true => exact Work.bind_ok.mpr ⟨(), _, saved, rfl⟩

/-- A fill whose movements the reservation covers is settled, and draws what it takes out from the
reservation and the reserved part of the balance alone. -/
theorem settleFill_covered
    (exact : Exact (settleArithmetic order.account now deltas
      ⟨store.activeReservation? order.id, false, []⟩ store))
    (solvent : store.Solvent) (backed : order.BackedBy (store.reservationsOf order.id))
    (once : (deltas.map (·.1)).Nodup)
    (covers : CoversDeltas order.account store ⟨store.activeReservation? order.id, false, []⟩
      deltas) :
    ∃ balances after,
      (settleFill order.account order.id deltas now).run store = .ok (balances, after) ∧
      ∀ asset, after.availableOf order.account asset =
          store.availableOf order.account asset + max 0 (AssetTotals.sumOf asset deltas) ∧
        heldIn asset (after.activeReservation? order.id) =
          heldIn asset (store.activeReservation? order.id) -
            max 0 (-AssetTotals.sumOf asset deltas) ∧
        after.reservedOf order.account asset =
          store.reservedOf order.account asset - max 0 (-AssetTotals.sumOf asset deltas) := by
  have held : 0 ≤ heldBy (store.activeReservation? order.id) := by
    cases active : store.activeReservation? order.id with
    | none => exact le_refl 0
    | some reservation => exact (backed.covered reservation active).2
  obtain ⟨next, middle, settling, effect⟩ := settleAll_covered exact solvent held once covers
  have moved := settleAll_exact exact solvent held settling
  obtain ⟨balances, after, done⟩ := settleFill_exists settling
  obtain ⟨same, sameStore, again, active, balanceTable⟩ := settleFill_active done
  obtain ⟨rfl, rfl⟩ := Prod.mk.inj (Except.ok.inj (settling.symm.trans again))
  refine ⟨balances, after, done, ?_⟩
  intro asset
  obtain ⟨available, left⟩ := effect asset
  have reserved := (moved asset).2
  have table : ∀ owner other, after.balance? owner other = middle.balance? owner other := by
    intro owner other
    rw [Store.balance?, balanceTable]
    rfl
  refine ⟨?_, ?_, ?_⟩
  · rw [← available, Store.availableOf, Store.availableOf, table]
  · rw [active]
    exact left
  · have sameReserved : after.reservedOf order.account asset =
        middle.reservedOf order.account asset := by
      rw [Store.reservedOf, Store.reservedOf, table]
    rw [sameReserved]
    simp only at reserved left
    linarith

/-- Closing the reservation of an order makes what it held available again. -/
theorem releaseFor_frees {outcome : Option WalletBalance} {status : ReservationStatus}
    (done : (releaseFor orderId status now).run store = .ok (outcome, after))
    (exact : Exact (releaseArithmetic orderId store now)) (covered : Covered store orderId account)
    (asset : String) :
    after.availableOf account asset =
        store.availableOf account asset + heldIn asset (store.activeReservation? orderId) ∧
      after.reservedOf account asset =
        store.reservedOf account asset - heldIn asset (store.activeReservation? orderId) := by
  obtain ⟨absent, -, rfl⟩ | ⟨held, balance, active, -, released, rfl⟩ := releaseFor_cases done
  · simp [absent, heldIn, heldBy]
  · have given : GivenBack store held now balance := released
    obtain ⟨owner, nonneg⟩ := covered held active
    rw [releaseArithmetic, active] at exact
    obtain ⟨available, reserved⟩ := given.exact nonneg exact
    rw [store.balanceOf_available, owner] at available
    rw [store.balanceOf_reserved, owner] at reserved
    change (store.withBalance balance).availableOf account asset = _ ∧
      (store.withBalance balance).reservedOf account asset = _
    rw [Store.availableOf_withBalance, Store.reservedOf_withBalance, given.key.1, given.key.2,
      owner, active, heldIn_some]
    by_cases same : held.asset = asset
    · subst same
      simpa using ⟨available, reserved⟩
    · simp [same]

end Funds

end SpotSettlement
