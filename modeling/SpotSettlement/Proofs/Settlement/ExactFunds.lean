import SpotSettlement.Proofs.Settlement.Funds

namespace SpotSettlement

/-! # Funds that move without rounding

If no sum or difference rounds, reserving and releasing leave the worth of every account as it was,
and settling a fill changes the worth of its account by the movements of the fill.  None of them
changes by how much the reserved part of a balance differs from what the active reservations hold.
-/

open Decimal

def WalletReservation.holdsFor (account asset : String) (reservation : WalletReservation) : Bool :=
  reservation.status == .active && reservation.account == account && reservation.asset == asset

/-- What the active reservations hold of the funds of an account in an asset. -/
def Store.heldFor (store : Store) (account asset : String) : ℚ :=
  ((store.reservations.filter (·.holdsFor account asset)).map (·.amount.value)).sum

/-- What a reservation holds of the funds of an account in an asset. -/
def WalletReservation.share (account asset : String) (reservation : WalletReservation) : ℚ :=
  if reservation.holdsFor account asset then reservation.amount.value else 0

/-- What a reservation in one asset holds; nothing, if it is in another. -/
def heldIn (asset : String) (reservation : Option WalletReservation) : ℚ :=
  heldBy (reservation.filter (·.asset == asset))

/-- From one store to the other every account gains some funds, and the reserved parts change as
the active reservations do. -/
def Store.Gains (store after : Store) (gain : String → String → ℚ) : Prop :=
  ∀ account asset, after.worth account asset = store.worth account asset + gain account asset ∧
    after.reservedOf account asset - after.heldFor account asset =
      store.reservedOf account asset - store.heldFor account asset

section Shares

variable {store after : Store} {account asset : String} {reservation drawn : WalletReservation}

theorem share_of_inactive (inactive : reservation.status ≠ .active) :
    reservation.share account asset = 0 := by
  simp [WalletReservation.share, WalletReservation.holdsFor, inactive]

theorem heldIn_some (asset : String) (reservation : WalletReservation) :
    heldIn asset (some reservation) =
      if reservation.asset = asset then reservation.amount.value else 0 := by
  unfold heldIn
  rw [Option.filter_some]
  by_cases same : reservation.asset = asset <;> simp [same, heldBy]

theorem share_of_active (active : reservation.status = .active) :
    reservation.share account asset =
      if reservation.account = account then heldIn asset (some reservation) else 0 := by
  by_cases owner : reservation.account = account <;> by_cases held : reservation.asset = asset <;>
    simp [WalletReservation.share, WalletReservation.holdsFor, heldIn_some, *]

theorem Store.heldFor_eq_sum (store : Store) (account asset : String) :
    store.heldFor account asset = (store.reservations.map (·.share account asset)).sum := by
  unfold heldFor WalletReservation.share
  rw [List.sum_map_ite]
  simp

theorem Store.heldFor_withNewReservation (store : Store) (reservation : WalletReservation)
    (account asset : String) : (store.withNewReservation reservation).heldFor account asset =
      store.heldFor account asset + reservation.share account asset := by
  rw [heldFor_eq_sum, heldFor_eq_sum, withNewReservation, List.map_append, List.sum_append]
  simp

theorem Store.find?_reservation_of_mem {reservations : List WalletReservation}
    (unique : (reservations.map (·.id)).Nodup) (member : reservation ∈ reservations) :
    reservations.find? (·.id == reservation.id) = some reservation := by
  induction reservations with
  | nil => contradiction
  | cons row rest ih =>
      rw [List.map_cons, List.nodup_cons] at unique
      obtain rfl | later := List.mem_cons.mp member
      · exact List.find?_cons_of_pos (by simp)
      · have different : row.id ≠ reservation.id := fun same =>
          unique.1 (same ▸ List.mem_map_of_mem later)
        rw [List.find?_cons_of_neg (by simpa using different)]
        exact ih unique.2 later

theorem Store.heldFor_withReservation (store : Store) (drawn : WalletReservation)
    (unique : (store.reservations.map (·.id)).Nodup)
    (member : reservation ∈ store.reservations) (same : drawn.id = reservation.id)
    (account asset : String) :
    (store.withReservation drawn).heldFor account asset = store.heldFor account asset +
      drawn.share account asset - reservation.share account asset := by
  rw [heldFor_eq_sum, heldFor_eq_sum]
  apply sum_putReservation
  rw [same]
  exact find?_reservation_of_mem unique member

end Shares

/-- Stores with the same balances and reservations gain nothing. -/
theorem Store.Gains.none {store after : Store} (balances : after.balances = store.balances)
    (reservations : after.reservations = store.reservations) : store.Gains after fun _ _ => 0 := by
  intro account asset
  simp [worth, reservedOf, heldFor, balance?, balances, reservations]

/-- Nothing is gained if one balance keeps its worth and what its reserved part changes by is what
the reservations change by. -/
theorem Store.Gains.of_moved {store after : Store} {account asset : String} {now : Instant}
    {balance : WalletBalance} (key : balance.account = account ∧ balance.asset = asset)
    (worth : balance.worth = (store.balanceOf account asset now).worth)
    (balances : after.balances = (store.withBalance balance).balances)
    (held : ∀ owner other, after.heldFor owner other = store.heldFor owner other +
      if account = owner ∧ asset = other then
        balance.reserved.value - (store.balanceOf account asset now).reserved.value else 0) :
    store.Gains after fun _ _ => 0 := by
  intro owner other
  have worths : after.worth owner other = (store.withBalance balance).worth owner other := by
    simp only [Store.worth, balance?, balances]
  have reserves : after.reservedOf owner other =
      (store.withBalance balance).reservedOf owner other := by
    simp only [reservedOf, balance?, balances]
  rw [worths, reserves, held, worth_withBalance, reservedOf_withBalance, key.1, key.2]
  rw [balanceOf_worth] at worth
  rw [balanceOf_reserved]
  by_cases written : account = owner ∧ asset = other
  · obtain ⟨rfl, rfl⟩ := written
    simp only [and_self, if_true, worth]
    exact ⟨(add_zero _).symm, by ring⟩
  · simp only [if_neg written, add_zero, and_self]

namespace Funds

variable {store after : Store} {order : Order} {pair : AssetPair} {now : Instant}
  {outcome : Option WalletBalance} {orderId account asset : String} {status : ReservationStatus}

def reserveArithmetic (order : Order) (pair : AssetPair) (store : Store) (now : Instant) :
    List Operation :=
  (match order.side, order.limitPrice with
    | .buy, some price => [.mul order.quantity price]
    | _, _ => []) ++
  match order.reservationRequirement pair with
  | .ok (some (asset, amount)) =>
    (store.balanceOf order.account asset now).reserveArithmetic amount
  | _ => []

theorem reserveFor_exact (exact : Exact (reserveArithmetic order pair store now))
    (done : (reserveFor order pair now).run store = .ok (outcome, after)) :
    store.Gains after fun _ _ => 0 := by
  obtain ⟨-, -, rfl⟩ | ⟨asset, amount, balance, required, reserved, -, rfl⟩ := reserveFor_cases done
  · exact .none rfl rfl
  · rw [reserveArithmetic, exact_append_iff, required] at exact
    obtain ⟨available, taken⟩ := WalletBalance.reserve_exact exact.2 reserved
    obtain ⟨-, -, _, -, _, -, same⟩ := WalletBalance.reserve_ok.mp reserved
    have keys := store.balanceOf_key order.account asset now
    have key : balance.account = order.account ∧ balance.asset = asset := by
      rw [← same]
      exact keys
    have worth : balance.worth = (store.balanceOf order.account asset now).worth := by
      simp only [WalletBalance.worth, available, taken]
      ring
    refine .of_moved key worth rfl ?_
    intro owner other
    rw [Store.heldFor_withNewReservation, taken, add_sub_cancel_left]
    simp [Store.heldFor, Store.withBalance, WalletReservation.share, WalletReservation.holdsFor,
      WalletReservation.opened]

/-- The active reservation of an order, if there is one, holds funds of the account, and no less
than nothing. -/
def Covered (store : Store) (orderId account : String) : Prop :=
  ∀ held, store.activeReservation? orderId = some held →
    held.account = account ∧ 0 ≤ held.amount.value

def releaseArithmetic (orderId : String) (store : Store) (now : Instant) : List Operation :=
  match store.activeReservation? orderId with
  | some held => (store.balanceOf held.account held.asset now).releaseArithmetic held.amount
  | none => []

/-- The balance that gets back what a reservation holds, which may be nothing. -/
def GivenBack (store : Store) (held : WalletReservation) (now : Instant) (balance : WalletBalance) :
    Prop :=
  held.amount.value ≤ 0 ∧ balance = store.balanceOf held.account held.asset now ∨
    0 < held.amount.value ∧
      (store.balanceOf held.account held.asset now).release held.amount now = .ok balance

theorem GivenBack.key {held : WalletReservation} {balance : WalletBalance}
    (given : GivenBack store held now balance) :
    balance.account = held.account ∧ balance.asset = held.asset := by
  have keys := store.balanceOf_key held.account held.asset now
  obtain ⟨-, rfl⟩ | ⟨-, released⟩ := given
  · exact keys
  · obtain ⟨-, -, _, -, _, -, same⟩ := WalletBalance.release_ok.mp released
    rw [← same]
    exact keys

theorem GivenBack.nonnegative {held : WalletReservation} {balance : WalletBalance}
    (given : GivenBack store held now balance) (solvent : store.Solvent) :
    balance.Nonnegative := by
  have before := solvent.balanceOf held.account held.asset now
  obtain ⟨-, rfl⟩ | ⟨-, released⟩ := given
  · exact before
  · exact WalletBalance.release_nonnegative before released

theorem GivenBack.exact {held : WalletReservation} {balance : WalletBalance}
    (given : GivenBack store held now balance) (nonneg : 0 ≤ held.amount.value)
    (exact : Exact ((store.balanceOf held.account held.asset now).releaseArithmetic held.amount)) :
    balance.available.value =
        (store.balanceOf held.account held.asset now).available.value + held.amount.value ∧
      balance.reserved.value =
        (store.balanceOf held.account held.asset now).reserved.value - held.amount.value := by
  obtain ⟨empty, rfl⟩ | ⟨-, released⟩ := given
  · have nothing : held.amount.value = 0 := le_antisymm empty nonneg
    exact ⟨by rw [nothing, add_zero], by rw [nothing, sub_zero]⟩
  · exact WalletBalance.release_exact exact released

theorem releaseFor_exact (exact : Exact (releaseArithmetic orderId store now))
    (unique : (store.reservations.map (·.id)).Nodup) (covered : Covered store orderId account)
    (inactive : status ≠ .active)
    (done : (releaseFor orderId status now).run store = .ok (outcome, after)) :
    store.Gains after fun _ _ => 0 := by
  obtain ⟨-, -, rfl⟩ | ⟨held, balance, active, -, released, rfl⟩ := releaseFor_cases done
  · exact .none rfl rfl
  · rw [releaseArithmetic, active] at exact
    obtain ⟨member, -, holding⟩ := Store.activeReservation?_some active
    have given : GivenBack store held now balance := released
    obtain ⟨available, reserved⟩ := given.exact (covered held active).2 exact
    have worth : balance.worth = (store.balanceOf held.account held.asset now).worth := by
      simp only [WalletBalance.worth, available, reserved]
      ring
    refine .of_moved given.key worth rfl ?_
    intro owner other
    rw [(store.withBalance balance).heldFor_withReservation
      { held with amount := .zero, status, updatedAt := now } unique member rfl owner other,
      share_of_inactive inactive, share_of_active holding, heldIn_some, reserved, ← ite_and,
      sub_sub_cancel_left]
    simp only [Store.heldFor, Store.withBalance]
    split <;> ring

variable {deltas : AssetTotals} {delta : String × Decimal} {progress next : Progress}
  {balances : List WalletBalance}

def settleArithmetic (account : String) (now : Instant) :
    AssetTotals → Progress → Store → List Operation
  | [], _, _ => []
  | delta :: rest, progress, store =>
    (store.balanceOf account delta.1 now).deltaArithmetic
        (progress.reservation.filter (·.asset == delta.1)) delta.2 ++
      match (settleDelta account now progress delta).run store with
      | .ok (next, after) => settleArithmetic account now rest next after
      | .error _ => []

/-- What settling movements does to the funds of the account, if nothing rounds. -/
def MovedBy (account : String) (deltas : AssetTotals) (store : Store) (progress : Progress)
    (after : Store) (next : Progress) : Prop :=
  ∀ asset, after.worth account asset = store.worth account asset + AssetTotals.sumOf asset deltas ∧
    store.reservedOf account asset - after.reservedOf account asset =
      heldIn asset progress.reservation - heldIn asset next.reservation

/-- What a draw takes from the reservation that it matches is in the asset of the draw. -/
theorem Matches.heldIn_sub {asset : String} {held matching settled : Option WalletReservation}
    (matched : Matches asset held matching)
    (drawn : Option.Rel WalletReservation.Drawn matching settled) (other : String) :
    heldIn other held - heldIn other (if matching.isSome then settled else held) =
      if asset = other then heldBy matching - heldBy settled else 0 := by
  obtain ⟨reservation, rfl, same, rfl⟩ | ⟨apart, rfl⟩ := matched
  · cases settled with
    | none => contradiction
    | some rest =>
        obtain ⟨kept⟩ := drawn
        simp only [Option.isSome_some, if_true, heldIn_some, kept.asset, same, heldBy]
        split <;> simp
  · cases settled with
    | none => simp
    | some rest => contradiction

theorem settleDelta_exact
    (exact : Exact ((store.balanceOf account delta.1 now).deltaArithmetic
      (progress.reservation.filter (·.asset == delta.1)) delta.2))
    (solvent : store.Solvent) (held : 0 ≤ heldBy progress.reservation)
    (done : (settleDelta account now progress delta).run store = .ok (next, after)) :
    MovedBy account [delta] store progress after next := by
  obtain ⟨settled, moved, rfl, reservation, -, -⟩ := settleDelta_cases done
  have settles := WalletBalance.applyDelta_settles moved
  have keys := store.balanceOf_key account delta.1 now
  have worth := store.balanceOf_worth account delta.1 now
  have before := store.balanceOf_reserved account delta.1 now
  have matched := matches_filter delta.1 progress.reservation
  generalize progress.reservation.filter (·.asset == delta.1) = matching
    at exact moved reservation settles matched
  have nonneg : 0 ≤ heldBy matching := by
    obtain ⟨_, -, -, rfl⟩ | ⟨-, rfl⟩ := matched
    · exact held
    · exact le_refl 0
  obtain ⟨gained, drawn⟩ :=
    WalletBalance.applyDelta_exact exact (solvent.balanceOf account delta.1 now) nonneg moved
  have left := matched.heldIn_sub settles.drawn
  rw [← reservation] at left
  intro asset
  rw [left asset, Store.worth_withBalance, Store.reservedOf_withBalance, settles.account,
    settles.asset, keys.1, keys.2, AssetTotals.sumOf_cons]
  by_cases same : delta.1 = asset
  · subst same
    simp only [if_true, and_self, AssetTotals.sumOf, List.filter_nil, List.map_nil, List.sum_nil]
    constructor <;> linarith
  · simp [same, AssetTotals.sumOf]

theorem settleAll_exact (exact : Exact (settleArithmetic account now deltas progress store))
    (solvent : store.Solvent) (held : 0 ≤ heldBy progress.reservation)
    (done : (deltas.foldlM (settleDelta account now) progress).run store = .ok (next, after)) :
    MovedBy account deltas store progress after next := by
  -- Every movement finds the reservation as the one before has left it.
  induction deltas generalizing store progress with
  | nil =>
      obtain ⟨rfl, rfl⟩ := Work.pure_ok.mp done
      intro asset
      simp [AssetTotals.sumOf]
  | cons delta rest ih =>
      rw [List.foldlM_cons, Work.bind_ok] at done
      obtain ⟨midway, middle, first, others⟩ := done
      rw [settleArithmetic, first, exact_append_iff] at exact
      have advance := settleDelta_advance first
      have one := settleDelta_exact exact.1 solvent held first
      have more := ih exact.2 (advance.solvent solvent) (advance.held_nonneg held) others
      intro asset
      obtain ⟨worthOne, heldOne⟩ := one asset
      obtain ⟨worthMore, heldMore⟩ := more asset
      rw [AssetTotals.sumOf_cons] at worthOne ⊢
      simp only [AssetTotals.sumOf, List.filter_nil, List.map_nil, List.sum_nil] at worthOne
      constructor
      · rw [worthMore, worthOne]
        simp only [AssetTotals.sumOf]
        ring
      · linarith

/-- Only what the reservation holds for the account changes, by what was drawn from it. -/
theorem settled_heldFor {middle : Store} (tables : middle.reservations = store.reservations)
    (unique : (store.reservations.map (·.id)).Nodup) (covered : Covered store orderId account)
    (drawn : Option.Rel WalletReservation.Drawn (store.activeReservation? orderId)
      next.reservation)
    (saved : next.reservation = store.activeReservation? orderId ∧ after = middle ∨
      ∃ drawn, next.reservation = some drawn ∧ after = middle.withReservation drawn)
    (owner asset : String) :
    after.heldFor owner asset = store.heldFor owner asset -
      if owner = account then heldIn asset (store.activeReservation? orderId) -
        heldIn asset next.reservation else 0 := by
  obtain ⟨same, rfl⟩ | ⟨rest, reservation, rfl⟩ := saved
  · simp [same, Store.heldFor, tables]
  · rw [reservation] at drawn ⊢
    cases active : store.activeReservation? orderId with
    | none => rw [active] at drawn; contradiction
    | some held =>
        rw [active] at drawn
        obtain ⟨kept⟩ := drawn
        obtain ⟨member, -, holding⟩ := Store.activeReservation?_some active
        rw [Store.heldFor_withReservation middle rest (by rw [tables]; exact unique)
          (by rw [tables]; exact member) kept.id, share_of_active holding,
          share_of_active (kept.status.trans holding), kept.account, (covered held active).1]
        simp only [Store.heldFor, tables]
        by_cases owned : account = owner
        · subst owned
          simp
          ring
        · simp [owned, Ne.symm owned]

theorem settleFill_exact
    (exact : Exact (settleArithmetic account now deltas
      ⟨store.activeReservation? orderId, false, []⟩ store))
    (solvent : store.Solvent) (unique : (store.reservations.map (·.id)).Nodup)
    (covered : Covered store orderId account)
    (done : (settleFill account orderId deltas now).run store = .ok (balances, after)) :
    store.Gains after fun owner asset =>
      if owner = account then AssetTotals.sumOf asset deltas else 0 := by
  obtain ⟨next, middle, settling, -, saved⟩ := settleFill_cases done
  have advance := settleAll_advance settling
  have held : 0 ≤ heldBy (store.activeReservation? orderId) := by
    cases active : store.activeReservation? orderId with
    | none => exact le_refl 0
    | some held => exact (covered held active).2
  have moved := settleAll_exact exact solvent held settling
  have tables : middle.reservations = store.reservations := by rw [advance.tables]
  have shares := settled_heldFor tables unique covered advance.drawn saved
  have balances : ∀ owner asset, after.worth owner asset = middle.worth owner asset ∧
      after.reservedOf owner asset = middle.reservedOf owner asset := by
    obtain ⟨-, rfl⟩ | ⟨drawn, -, rfl⟩ := saved <;> exact fun _ _ => ⟨rfl, rfl⟩
  intro owner asset
  rw [(balances owner asset).1, (balances owner asset).2, shares]
  dsimp only
  by_cases owned : owner = account
  · subst owned
    obtain ⟨worth, reserved⟩ := moved asset
    rw [if_pos rfl, if_pos rfl]
    simp only at reserved
    exact ⟨worth, by linarith⟩
  · have untouched := advance.elsewhere owner asset owned
    rw [if_neg owned, if_neg owned]
    simp [Store.worth, Store.reservedOf, untouched]

end Funds

end SpotSettlement
