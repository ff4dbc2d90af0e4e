import SpotSettlement.Proofs.Settlement.Confinement

namespace SpotSettlement

/-! # What a fill does if nothing rounds

A fill that comes without a status advances its order by its quantity, brings the account of the
order what its report says, and takes what goes out from the reservation of the order as far as the
reservation goes.  All of this is said here in numbers, without the moments and identifiers that
differ from one run to another.
-/

open Decimal

theorem WalletBalance.applyDelta_leaves {balance : WalletBalance}
    {reservation : Option WalletReservation} {delta : Decimal} {now : Instant} {settled : Settled}
    (exact : Exact (balance.deltaArithmetic reservation delta)) (nonneg : balance.Nonnegative)
    (held : 0 ≤ heldBy reservation) (covered : heldBy reservation ≤ balance.reserved.value)
    (moved : balance.applyDelta reservation delta now = .ok settled) :
    heldBy settled.reservation = max 0 (heldBy reservation - max 0 (-delta.value)) := by
  obtain ⟨after, positive, -, rfl⟩ | ⟨zero, rfl⟩ | ⟨negative, paid⟩ := applyDelta_cases moved
  · rw [max_eq_left (neg_nonpos.mpr positive.le), sub_zero, max_eq_right held]
  · rw [zero, neg_zero, max_self, sub_zero, max_eq_right held]
  · rw [deltaArithmetic_of_neg negative] at exact
    obtain ⟨-, -, left⟩ := payOut_exact exact nonneg held (by rw [value_neg]; linarith) paid
    have whole : (balance.reservable reservation).value = heldBy reservation := by
      cases reservation with
      | none => exact value_zero
      | some reservation => exact (value_min _ _).trans (min_eq_left covered)
    rw [left, draw, whole, value_neg, max_eq_right (by linarith : 0 ≤ -delta.value)]
    obtain within | beyond := le_total (-delta.value) (heldBy reservation)
    · rw [min_eq_left within, max_eq_right (sub_nonneg.mpr within)]
    · rw [min_eq_right beyond, max_eq_left (sub_nonpos.mpr beyond), sub_self]

/-- Taking two amounts from what there is, as far as it goes, leaves what taking both at once
leaves. -/
theorem max_sub_max_sub {held first second : ℚ} (nonneg : 0 ≤ second) :
    max 0 (max 0 (held - first) - second) = max 0 (held - (first + second)) := by
  obtain within | beyond := le_total first held
  · rw [max_eq_right (sub_nonneg.mpr within), sub_sub]
  · rw [max_eq_left (sub_nonpos.mpr beyond), zero_sub, max_eq_left (neg_nonpos.mpr nonneg),
      max_eq_left (by linarith)]

namespace Funds

variable {store after : Store} {account : String} {now : Instant} {order : Order}
  {progress next : Progress} {deltas : AssetTotals} {delta : String × Decimal}
  {balances : List WalletBalance}

/-- The reserved parts of the balances of an account cover what a reservation holds. -/
def CoveredBy (account : String) (store : Store) (reservation : Option WalletReservation) : Prop :=
  ∀ asset, heldIn asset reservation ≤ store.reservedOf account asset

theorem settleDelta_leaves
    (exact : Exact ((store.balanceOf account delta.1 now).deltaArithmetic
      (progress.reservation.filter (·.asset == delta.1)) delta.2))
    (solvent : store.Solvent) (held : 0 ≤ heldBy progress.reservation)
    (covered : CoveredBy account store progress.reservation)
    (done : (settleDelta account now progress delta).run store = .ok (next, after))
    (asset : String) :
    heldIn asset next.reservation = if delta.1 = asset
      then max 0 (heldIn asset progress.reservation - max 0 (-delta.2.value))
      else heldIn asset progress.reservation := by
  obtain ⟨settled, moved, rfl, reservation, -, -⟩ := settleDelta_cases done
  have matched := matches_filter delta.1 progress.reservation
  have drawn := (WalletBalance.applyDelta_settles moved).drawn
  have change := matched.heldIn_sub drawn asset
  rw [← reservation] at change
  split
  · next here =>
      have reserved := (covered delta.1).trans_eq (store.balanceOf_reserved account delta.1 now).symm
      have left := WalletBalance.applyDelta_leaves exact (solvent.balanceOf account delta.1 now)
        (matched.nonneg held) reserved moved
      rw [if_pos here, left] at change
      subst here
      change heldIn delta.1 progress.reservation - _ =
        heldIn delta.1 progress.reservation - max 0 (heldIn delta.1 progress.reservation - _) at change
      linarith
  · next elsewhere =>
      rw [if_neg elsewhere] at change
      linarith

theorem settleDelta_coveredBy
    (exact : Exact ((store.balanceOf account delta.1 now).deltaArithmetic
      (progress.reservation.filter (·.asset == delta.1)) delta.2))
    (solvent : store.Solvent) (held : 0 ≤ heldBy progress.reservation)
    (covered : CoveredBy account store progress.reservation)
    (done : (settleDelta account now progress delta).run store = .ok (next, after)) :
    CoveredBy account after next.reservation := by
  intro asset
  have drawn := (settleDelta_exact exact solvent held done asset).2
  have before := covered asset
  linarith

/-- Settling takes from a reservation what goes out in its asset, as far as the reservation goes. -/
theorem settleAll_leaves (exact : Exact (settleArithmetic account now deltas progress store))
    (solvent : store.Solvent) (held : 0 ≤ heldBy progress.reservation)
    (covered : CoveredBy account store progress.reservation) (unique : (deltas.map (·.1)).Nodup)
    (done : (deltas.foldlM (settleDelta account now) progress).run store = .ok (next, after))
    (asset : String) :
    heldIn asset next.reservation =
      max 0 (heldIn asset progress.reservation - max 0 (-AssetTotals.sumOf asset deltas)) := by
  induction deltas generalizing store progress with
  | nil =>
      obtain ⟨rfl, rfl⟩ := Work.pure_ok.mp done
      have nonneg : 0 ≤ heldIn asset progress.reservation :=
        (matches_filter asset progress.reservation).nonneg held
      simp [AssetTotals.sumOf, nonneg]
  | cons delta rest ih =>
      rw [List.foldlM_cons, Work.bind_ok] at done
      obtain ⟨midway, middle, first, others⟩ := done
      rw [settleArithmetic, first, exact_append_iff] at exact
      have advance := settleDelta_advance first
      have one := settleDelta_leaves exact.1 solvent held covered first asset
      have more := ih exact.2 (advance.solvent solvent) (advance.held_nonneg held)
        (settleDelta_coveredBy exact.1 solvent held covered first)
        (List.nodup_cons.mp unique).2 others
      have total := AssetTotals.apply_sumOf_cons (fun sum => max 0 (-sum)) (by simp) unique asset
      rw [more, one, total]
      split
      · exact max_sub_max_sub (le_max_left 0 _)
      · rw [zero_add]

/-- A balance is there after settling if it was there before or was moved. -/
theorem settleAll_rows
    (done : (deltas.foldlM (settleDelta account now) progress).run store = .ok (next, after))
    (owner asset : String) : (after.balance? owner asset).isSome = true ↔
      (store.balance? owner asset).isSome = true ∨
        owner = account ∧ asset ∈ deltas.map (·.1) := by
  induction deltas generalizing store progress with
  | nil =>
      obtain ⟨rfl, rfl⟩ := Work.pure_ok.mp done
      simp
  | cons delta rest ih =>
      rw [List.foldlM_cons, Work.bind_ok] at done
      obtain ⟨midway, middle, first, others⟩ := done
      obtain ⟨settled, moved, rfl, -⟩ := settleDelta_cases first
      have settles := WalletBalance.applyDelta_settles moved
      have key := store.balanceOf_key account delta.1 now
      rw [ih others, Store.balance?_withBalance, settles.account, settles.asset, key.1, key.2,
        List.map_cons, List.mem_cons]
      by_cases written : account = owner ∧ delta.1 = asset
      · obtain ⟨rfl, rfl⟩ := written
        simp
      · rw [if_neg written]
        grind

end Funds

/-- What a reservation says, apart from when. -/
structure Hold where
  id : String
  orderId : String
  account : String
  asset : String
  amount : ℚ
  status : ReservationStatus

def WalletReservation.hold (reservation : WalletReservation) : Hold where
  id := reservation.id
  orderId := reservation.orderId
  account := reservation.account
  asset := reservation.asset
  amount := reservation.amount.value
  status := reservation.status

namespace Hold

/-- Whether the hold is the active one of an order. -/
def OpenFor (orderId : String) (hold : Hold) : Prop := hold.orderId = orderId ∧ hold.status = .active

instance (orderId : String) : DecidablePred (OpenFor orderId) :=
  fun _ => inferInstanceAs (Decidable (_ ∧ _))

/-- The hold after what goes out is taken from it, if it is the active one of the order. -/
def drawn (orderId : String) (gain : String → ℚ) (hold : Hold) : Hold :=
  if hold.OpenFor orderId then
    { hold with amount := max 0 (hold.amount - max 0 (-gain hold.asset)) }
  else hold

/-- The hold after it is closed, if it is the active one of the order. -/
def closed (orderId : String) (status : ReservationStatus) (hold : Hold) : Hold :=
  if hold.OpenFor orderId then { hold with amount := 0, status } else hold

/-- The hold after a fill of the order, which may complete it. -/
def filled (orderId : String) (gain : String → ℚ) (completes : Bool) (hold : Hold) : Hold :=
  if completes then (hold.drawn orderId gain).closed orderId .consumed
  else hold.drawn orderId gain

end Hold

namespace Store

variable {store : Store} {held rest : WalletReservation} {orderId : String}

def holds (store : Store) : List Hold := store.reservations.map (·.hold)

theorem heldFor_eq_holds (store : Store) (account asset : String) :
    store.heldFor account asset = ((store.holds.filter fun hold =>
      hold.status == .active && hold.account == account && hold.asset == asset).map
        (·.amount)).sum := by
  rw [holds, List.filter_map, List.map_map]
  rfl

theorem map_putReservation {reservations : List WalletReservation}
    (unique : (reservations.map (·.id)).Nodup) (rest : WalletReservation) :
    putReservation rest reservations =
      reservations.map fun row => if row.id = rest.id then rest else row := by
  induction reservations with
  | nil => rfl
  | cons row others ih =>
      rw [List.map_cons, List.nodup_cons] at unique
      rw [putReservation, List.map_cons]
      by_cases same : row.id = rest.id
      · have kept : others.map (fun other => if other.id = rest.id then rest else other) = others := by
          conv_rhs => rw [← List.map_id others]
          apply List.map_congr_left
          intro other listed
          have apart : row.id ≠ other.id := fun shared =>
            unique.1 (shared ▸ List.mem_map_of_mem listed)
          exact if_neg fun again => apart (same.trans again.symm)
        rw [if_pos (by simpa using same), if_pos same, kept]
      · rw [if_neg (by simpa using same), if_neg same, ih unique.2]

/-- Writing the only reservation of an order changes what is said of it, and of no other. -/
theorem holds_withReservation {change : Hold → Hold}
    (unique : (store.reservations.map (·.id)).Nodup) (only : store.reservationsOf orderId = [held])
    (sameId : rest.id = held.id) (changed : change held.hold = rest.hold)
    (others : ∀ hold : Hold, hold.orderId ≠ orderId → change hold = hold) :
    (store.withReservation rest).holds = store.holds.map change := by
  have member : held ∈ store.reservationsOf orderId := only ▸ List.mem_singleton_self held
  obtain ⟨present, owner⟩ := List.mem_filter.mp member
  rw [holds, withReservation, map_putReservation unique, holds, List.map_map, List.map_map]
  apply List.map_congr_left
  intro row listed
  by_cases same : row.id = rest.id
  · obtain rfl := List.inj_on_of_nodup_map unique listed present (same.trans sameId)
    simp [same, changed]
  · have apart : row.orderId ≠ orderId := by
      intro here
      have mine : row ∈ store.reservationsOf orderId :=
        List.mem_filter.mpr ⟨listed, beq_iff_eq.mpr here⟩
      rw [only, List.mem_singleton] at mine
      exact same (mine ▸ sameId.symm)
    simp [same, others row.hold apart]

/-- A change that leaves what is said of an order alone, and concerns no other, changes nothing. -/
theorem holds_map_self {change : Hold → Hold}
    (same : ∀ row ∈ store.reservationsOf orderId, change row.hold = row.hold)
    (others : ∀ hold : Hold, hold.orderId ≠ orderId → change hold = hold) :
    store.holds.map change = store.holds := by
  rw [holds, List.map_map]
  apply List.map_congr_left
  intro row listed
  by_cases mine : row.orderId = orderId
  · exact same row (List.mem_filter.mpr ⟨listed, beq_iff_eq.mpr mine⟩)
  · exact others row.hold mine

end Store

namespace Funds

variable {store after : Store} {order : Order} {now : Instant} {outcome : Option WalletBalance}
  {status : ReservationStatus} {deltas : AssetTotals} {balances : List WalletBalance}

/-- The reserved part of a balance covers what the reservation of an order holds of it. -/
theorem coveredBy_of_balanced (balanced : store.Balanced) (backing : store.Backing)
    (solvent : store.Solvent) (covered : Covered store order.id order.account) :
    CoveredBy order.account store (store.activeReservation? order.id) := by
  intro asset
  have reserved : 0 ≤ store.reservedOf order.account asset := by
    rw [← store.balanceOf_reserved order.account asset default]
    exact (solvent.balanceOf order.account asset default).2
  cases active : store.activeReservation? order.id with
  | none => exact reserved
  | some held =>
      rw [heldIn_some]
      split
      · next same =>
          have within := balanced.covers backing order.id held active
          rwa [(covered held active).1, same] at within
      · exact reserved

theorem settleFill_holds
    (done : (settleFill order.account order.id deltas now).run store = .ok (balances, after))
    (exact : Exact (settleArithmetic order.account now deltas
      ⟨store.activeReservation? order.id, false, []⟩ store))
    (solvent : store.Solvent) (unique : (store.reservations.map (·.id)).Nodup)
    (backed : order.BackedBy (store.reservationsOf order.id))
    (openStatus : order.status.isTerminal = false)
    (covered : CoveredBy order.account store (store.activeReservation? order.id))
    (once : (deltas.map (·.1)).Nodup) :
    after.holds = store.holds.map (·.drawn order.id (AssetTotals.sumOf · deltas)) := by
  obtain ⟨next, middle, settling, -, saved⟩ := settleFill_cases done
  have advance := settleAll_advance settling
  have tables : middle.reservations = store.reservations := by rw [advance.tables]
  have others : ∀ hold : Hold, hold.orderId ≠ order.id →
      hold.drawn order.id (AssetTotals.sumOf · deltas) = hold :=
    fun hold different => if_neg fun mine => different mine.1
  cases active : store.activeReservation? order.id with
  | none =>
      have none := (backed.of_inactive openStatus active).2
      rw [Store.holds_map_self (by simp [none]) others]
      obtain ⟨-, rfl⟩ | ⟨drawn, reservation, rfl⟩ := saved
      · exact congrArg (List.map _) tables
      · have related := advance.drawn
        rw [reservation, active] at related
        contradiction
  | some held =>
      obtain ⟨-, only, -, -, nonneg, -⟩ := backed.of_active active
      obtain ⟨-, owner, holding⟩ := Store.activeReservation?_some active
      have heldNonneg : 0 ≤ heldBy (store.activeReservation? order.id) := by
        rw [active]
        exact nonneg
      have left := settleAll_leaves exact solvent heldNonneg covered once settling held.asset
      have related := advance.drawn
      rw [active] at related left
      cases reservation : next.reservation with
      | none => rw [reservation] at related; contradiction
      | some rest =>
          rw [reservation] at related left
          obtain ⟨kept⟩ := related
          simp only [heldIn_some, kept.asset, if_true] at left
          have changed : held.hold.drawn order.id (AssetTotals.sumOf · deltas) = rest.hold := by
            rw [Hold.drawn, if_pos ⟨owner, holding⟩]
            simp only [WalletReservation.hold, kept.id, kept.orderId, kept.account, kept.asset,
              kept.status, left]
          obtain ⟨same, rfl⟩ | ⟨drawn, again, rfl⟩ := saved
          · obtain rfl := Option.some.inj (reservation.symm.trans (same.trans active))
            rw [Store.holds_map_self (by simp [only, changed]) others]
            exact congrArg (List.map _) tables
          · obtain rfl := Option.some.inj (reservation.symm.trans again)
            rw [← Store.holds_withReservation unique only kept.id changed others]
            simp only [Store.holds, Store.withReservation, tables]

theorem settleFill_rows {account orderId : String}
    (done : (settleFill account orderId deltas now).run store = .ok (balances, after))
    (owner asset : String) : (after.balance? owner asset).isSome = true ↔
      (store.balance? owner asset).isSome = true ∨
        owner = account ∧ asset ∈ deltas.map (·.1) := by
  obtain ⟨next, middle, settling, -, saved⟩ := settleFill_cases done
  have rows := settleAll_rows settling owner asset
  obtain ⟨-, rfl⟩ | ⟨drawn, -, rfl⟩ := saved <;> exact rows

theorem releaseFor_holds (unique : (store.reservations.map (·.id)).Nodup)
    (backed : order.BackedBy (store.reservationsOf order.id))
    (openStatus : order.status.isTerminal = false)
    (done : (releaseFor order.id status now).run store = .ok (outcome, after)) :
    after.holds = store.holds.map (·.closed order.id status) := by
  have others : ∀ hold : Hold, hold.orderId ≠ order.id → hold.closed order.id status = hold :=
    fun hold different => if_neg fun mine => different mine.1
  obtain ⟨absent, -, rfl⟩ | ⟨held, balance, active, -, -, rfl⟩ := releaseFor_cases done
  · have none := (backed.of_inactive openStatus absent).2
    exact (Store.holds_map_self (by simp [none]) others).symm
  · obtain ⟨-, only, -⟩ := backed.of_active active
    obtain ⟨-, owner, holding⟩ := Store.activeReservation?_some active
    have changed : held.hold.closed order.id status =
        ({ held with amount := .zero, status, updatedAt := now } : WalletReservation).hold := by
      rw [Hold.closed, if_pos ⟨owner, holding⟩]
      simp only [WalletReservation.hold, value_zero]
    have sameIds : ((store.withBalance balance).reservations.map (·.id)).Nodup := unique
    exact Store.holds_withReservation sameIds only rfl changed others

end Funds

/-- An asset has a net movement exactly if its movements do not cancel. -/
theorem FillEconomics.mem_netDeltas {economics : FillEconomics} {deltas : AssetTotals}
    (netted : economics.netDeltas = .ok deltas) (asset : String) :
    asset ∈ deltas.map (·.1) ↔ AssetTotals.sumOf asset deltas ≠ 0 := by
  have unique := netDeltas_nodup netted
  simp only [netDeltas, AssetTotals.ofMovements, bind_ok_iff, pure_ok_iff] at netted
  obtain ⟨totals, -, rfl⟩ := netted
  constructor
  · intro member
    obtain ⟨delta, listed, rfl⟩ := List.mem_map.mp member
    rw [AssetTotals.sumOf_of_mem unique listed, ne_eq, ← isZero_iff_value]
    simpa using (List.mem_filter.mp listed).2
  · intro moved
    by_contra absent
    exact moved (AssetTotals.sumOf_eq_zero absent)

def LedgerEntry.isOn (account asset : String) (entry : LedgerEntry) : Bool :=
  entry.account == account && entry.asset == asset

/-- The sum of all entries on an account in an asset, be it the account of an order or the clearing
account of an exchange. -/
def Store.ledgerNet (store : Store) (account asset : String) : ℚ :=
  LedgerEntry.sumOf (·.isOn account asset) store.entries

theorem LedgerEntry.sumOf_isOn (account asset : String) (entry : LedgerEntry) :
    sumOf (·.isOn account asset) [entry] = if account = entry.account
      then if entry.asset = asset then entry.signedAmount.value else 0 else 0 := by
  by_cases owner : account = entry.account
  · subst owner
    by_cases booked : entry.asset = asset <;> simp [sumOf, isOn, booked]
  · simp [sumOf, isOn, owner, Ne.symm owner]

/-- A fill moves on the account of its order what it moves back on the clearing account. -/
theorem LedgerTransaction.sumOf_entries_isOn (economics : FillEconomics) (id : String)
    (execution : Execution) (account asset : String) :
    LedgerEntry.sumOf (·.isOn account asset)
        (economics.legs.flatMap (entriesOfLeg id execution)) =
      (if account = execution.account then AssetTotals.sumOf asset economics.movements else 0) -
        if account = clearingAccount execution.exchange
          then AssetTotals.sumOf asset economics.movements else 0 := by
  unfold FillEconomics.movements
  induction economics.legs with
  | nil => simp [LedgerEntry.sumOf, AssetTotals.sumOf]
  | cons leg rest ih =>
      obtain ⟨own, counter, pair, owner, ownAsset, -, ownAmount, counterAsset, -, counterAmount⟩ :=
        entriesOfLeg_cases id execution leg
      have counterOwner : counter.account = clearingAccount execution.exchange := by
        unfold entriesOfLeg at pair
        simp only [List.cons.injEq] at pair
        rw [← pair.2.1]
      have split : [own, counter] = [own] ++ [counter] := rfl
      rw [List.flatMap_cons, LedgerEntry.sumOf_append, ih, pair, split, LedgerEntry.sumOf_append,
        LedgerEntry.sumOf_isOn, LedgerEntry.sumOf_isOn, owner, counterOwner, ownAsset, counterAsset,
        ownAmount, counterAmount, List.map_cons, AssetTotals.sumOf_cons]
      split_ifs <;> ring

/-- What a transaction of a fill adds to the net of an account. -/
theorem Store.ledgerNet_append {store after : Store} {transaction : LedgerTransaction}
    (ledger : after.ledger = store.ledger ++ [transaction]) (account asset : String) :
    after.ledgerNet account asset = store.ledgerNet account asset +
      LedgerEntry.sumOf (·.isOn account asset) transaction.entries := by
  simp only [ledgerNet, entries, ledger, List.flatMap_append, List.flatMap_singleton,
    LedgerEntry.sumOf_append]

/-- A fill whose report names no status moves the order as far as its quantity says. -/
theorem Order.applyFill_unnamed {order moved : Order} {quantity : Decimal} {fill : FillTransition}
    {now : Instant} (advance : order.applyFill quantity none now = .ok (fill, moved))
    (exact : (Operation.add order.filled quantity).Exact) :
    moved.filled.value = min (order.filled.value + quantity.value) order.quantity.value ∧
      OrderStatus.ofQuantities moved.filled order.quantity = some moved.status := by
  obtain ⟨-, sum, next, added, follows, -, rfl⟩ := applyFill_ok advance
  constructor
  · rw [← exact.add_value added]
    exact value_min _ _
  · obtain ⟨-, -, -, -, implied | ⟨-, named, -⟩⟩ := OrderStatus.next_ok follows
    · exact implied
    · contradiction

/-- What a reported fill brings the account of its order, by asset; what goes out is negative. -/
def ExecutionReport.gain (report : ExecutionReport) (pair : AssetPair) (asset : String) : ℚ :=
  FillEconomics.movementOf (Execution.ofReport "" report "" "") pair
    (report.quantity.value * report.price.value) asset

/-- From one store to the other a fill of an order has been applied that brings its account what
`gain` says. -/
structure Store.FilledBy (store after : Store) (order moved : Order) (report : ExecutionReport)
    (gain : String → ℚ) : Prop where
  member : order ∈ store.orders
  advances : order.Advances moved
  orders : after.orders = replaceOrder moved store.orders
  filled : moved.filled.value =
    min (order.filled.value + report.quantity.value) order.quantity.value
  implied : OrderStatus.ofQuantities moved.filled order.quantity = some moved.status
  worth : ∀ account asset, after.worth account asset =
    store.worth account asset + if account = order.account then gain asset else 0
  ledgerNet : ∀ account asset, after.ledgerNet account asset =
    store.ledgerNet account asset + ((if account = order.account then gain asset else 0) -
      if account = clearingAccount report.exchange then gain asset else 0)
  rows : ∀ account asset, (after.balance? account asset).isSome = true ↔
    (store.balance? account asset).isSome = true ∨ account = order.account ∧ gain asset ≠ 0
  holds : after.holds = store.holds.map (·.filled order.id gain (moved.status == .filled))
  executions : after.executions = store.executions ++ [Terms.executionOf store order report]

namespace Terms

variable {terms : Terms} {store after : Store} {order moved : Order} {now : Instant}
  {released : Option WalletBalance} {report : ExecutionReport} {outcome : IngestOutcome}

theorem releaseIfClosed_holds
    (done : (releaseIfClosed moved now).run store = .ok (released, after))
    (unique : (store.reservations.map (·.id)).Nodup)
    (backed : order.BackedBy (store.reservationsOf order.id)) (advances : order.Advances moved)
    (known : moved.status = .filled ∨ moved.status = .partiallyFilled) :
    after.holds = store.holds.map fun hold =>
      if moved.status = .filled then hold.closed order.id .consumed else hold := by
  obtain ⟨staysOpen, -, rfl⟩ | ⟨status, closing, release⟩ := releaseIfClosed_cases done
  · have incomplete : moved.status ≠ .filled := by
      intro complete
      rw [complete] at staysOpen
      contradiction
    simp [incomplete]
  · obtain complete | partly := known
    · rw [complete] at closing
      cases closing
      rw [advances.id] at release
      have openStatus := OrderStatus.not_terminal_of_canBecome advances.legal
      simpa [complete] using Funds.releaseFor_holds unique backed openStatus release
    · rw [partly] at closing
      contradiction

theorem Fills.filledBy (fills : terms.Fills order report now store outcome after)
    (unnamed : report.reportedStatus = none)
    (exact : Exact (terms.fillArithmetic order report store now)) (funded : store.Funded)
    (grounded : store.Grounded) (balanced : store.Balanced) (member : order ∈ store.orders) :
    ∃ moved pair, terms.catalog.assetPair report.instrument = some pair ∧
      store.FilledBy after order moved report (report.gain pair) := by
  have gains := Store.fills_gains fills exact funded member
  cases fills with
  | @applied pair economics deltas _ settled transaction fill moved _ closed _ _ _ _
      listed valued netted settle book advance close _ _ _ _ =>
      refine ⟨moved, pair, listed, ?_⟩
      have advances := Order.applyFill_advances advance
      have issued := funded.identified.reservations
      have backed := funded.backing.backed order member
      have funds := Funds.settleFill_funds settle
      have drawn := Funds.settleFill_backs settle issued.1 backed
      have unique := (funds.issued (issued.mono (Nat.le_succ _))).1
      have openStatus := OrderStatus.not_terminal_of_canBecome advances.legal
      simp only [fillArithmetic, listed, valued, exact_cons_iff, settlementArithmetic, netted,
        settle, book, exact_append_iff, advanceArithmetic, advance] at exact
      obtain ⟨valueExact, netExact, settleExact, addExact, closeExact⟩ := exact
      have moves : ∀ asset, AssetTotals.sumOf asset economics.movements = report.gain pair asset :=
        FillEconomics.sumOf_movements valueExact valued
      have sums : ∀ asset, AssetTotals.sumOf asset deltas = report.gain pair asset := fun asset =>
        (economics.netDeltas_exact netExact netted asset).trans (moves asset)
      rw [unnamed] at advance
      obtain ⟨filled, implied⟩ := Order.applyFill_unnamed advance addExact
      have ledger : closed.ledger = store.ledger ++ [transaction] :=
        (releaseIfClosed_funds close).ledger.trans (congrArg (· ++ [transaction]) funds.ledger)
      have returnable := (Funds.settleFill_keepsHoldings settle).returnable grounded.returnable
      have kept := releaseIfClosed_keepsWorth close closeExact fun held active =>
        ⟨(drawn.backed.covered held (advances.id ▸ active)).2,
          returnable held (Store.activeReservation?_some active).1⟩
      have covered := Funds.coveredBy_of_balanced balanced funded.backing funded.solvent
        backed.covered
      have settledHolds := Funds.settleFill_holds settle settleExact funded.solvent issued.1 backed
        openStatus covered (FillEconomics.netDeltas_nodup netted)
      have closedHolds := releaseIfClosed_holds close unique drawn.backed advances
        (OrderStatus.ofQuantities_some implied)
      exact {
        member
        advances
        orders := (releaseIfClosed_funds close).orders.trans
          (congrArg (Store.replaceOrder moved) funds.orders)
        filled
        implied
        worth := by
          intro account asset
          rw [(gains account asset).1]
          change _ + (closed.booked account asset - _) = _
          rw [Store.booked_append ledger, add_sub_cancel_left, LedgerTransaction.ofExecution_ok book,
            LedgerTransaction.sumOf_entries, moves]
          rfl
        ledgerNet := by
          intro account asset
          change closed.ledgerNet account asset = _
          rw [Store.ledgerNet_append ledger, LedgerTransaction.ofExecution_ok book,
            LedgerTransaction.sumOf_entries_isOn, moves]
          rfl
        rows := by
          intro account asset
          have settledRows := Funds.settleFill_rows settle account asset
          rw [FillEconomics.mem_netDeltas netted, sums] at settledRows
          have same := congrArg Option.isSome (kept account asset)
          rw [Option.isSome_map, Option.isSome_map] at same
          exact (Bool.eq_iff_iff.mp same).trans settledRows
        holds := by
          have both := closedHolds.trans (congrArg (List.map _) settledHolds)
          simp only [sums, List.map_map] at both
          refine both.trans (List.map_congr_left fun hold _ => ?_)
          by_cases complete : moved.status = .filled <;> simp [Hold.filled, complete]
        executions := (releaseIfClosed_funds close).executions.trans funds.executions }

end Terms

end SpotSettlement
