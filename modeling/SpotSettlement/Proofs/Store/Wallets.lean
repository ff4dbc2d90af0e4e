import Mathlib.Algebra.BigOperators.Group.List.Basic
import SpotSettlement.Proofs.Store.Identifiers
import SpotSettlement.Proofs.Wallet.Movements
import SpotSettlement.Store.Wallets

namespace SpotSettlement.Store

/-! # The rows of balances and reservations

A balance is found by account and asset, a missing one counts as empty, and writing one changes no
other.  A reservation is written in place of the one with its identifier, so that sums and
selections of reservations change by that one row.
-/

variable {store after : Store} {account asset : String} {now : Instant}

/-- The balance of an account in an asset, which is empty if there is none. -/
def balanceOf (store : Store) (account asset : String) (now : Instant) : WalletBalance :=
  (store.balance? account asset).getD (.empty account asset now)

/-- All funds of an account in an asset. -/
def worth (store : Store) (account asset : String) : ℚ :=
  match store.balance? account asset with
  | some balance => balance.worth
  | none => 0

def reservedOf (store : Store) (account asset : String) : ℚ :=
  match store.balance? account asset with
  | some balance => balance.reserved.value
  | none => 0

theorem balanceOf_worth (store : Store) (account asset : String) (now : Instant) :
    (store.balanceOf account asset now).worth = store.worth account asset := by
  unfold balanceOf worth
  cases store.balance? account asset <;> simp [WalletBalance.empty, WalletBalance.worth]

theorem balanceOf_reserved (store : Store) (account asset : String) (now : Instant) :
    (store.balanceOf account asset now).reserved.value = store.reservedOf account asset := by
  unfold balanceOf reservedOf
  cases store.balance? account asset <;> simp [WalletBalance.empty]

theorem balance?_key {balance : WalletBalance} (found : store.balance? account asset = some balance) :
    balance.account = account ∧ balance.asset = asset := by
  have holds := List.find?_some found
  simpa using holds

theorem balanceOf_key (store : Store) (account asset : String) (now : Instant) :
    (store.balanceOf account asset now).account = account ∧
      (store.balanceOf account asset now).asset = asset := by
  unfold balanceOf
  cases found : store.balance? account asset with
  | none => exact ⟨rfl, rfl⟩
  | some balance => exact balance?_key found

variable {balance other : WalletBalance} {balances : List WalletBalance}

theorem find?_putBalance (balance : WalletBalance) (balances : List WalletBalance) :
    (putBalance balance balances).find? (fun row => row.account == account && row.asset == asset) =
      if balance.account = account ∧ balance.asset = asset then some balance
      else balances.find? fun row => row.account == account && row.asset == asset := by
  induction balances with
  | nil => grind [putBalance]
  | cons row rest ih => grind [putBalance]

theorem mem_of_mem_putBalance (member : other ∈ putBalance balance balances) :
    other = balance ∨ other ∈ balances := by
  induction balances with
  | nil => simpa [putBalance] using member
  | cons row rest ih => grind [putBalance]

theorem putBalance_putBalance (same : other.account = balance.account ∧ other.asset = balance.asset) :
    putBalance balance (putBalance other balances) = putBalance balance balances := by
  induction balances with
  | nil => simp [putBalance, same]
  | cons row rest ih => grind [putBalance]

theorem putBalance_of_found (found : store.balance? account asset = some balance) :
    putBalance balance store.balances = store.balances := by
  obtain ⟨sameAccount, sameAsset⟩ := balance?_key found
  unfold balance? at found
  generalize store.balances = balances at found
  induction balances with
  | nil => contradiction
  | cons row rest ih => grind [putBalance]

def withBalance (store : Store) (balance : WalletBalance) : Store :=
  { store with balances := putBalance balance store.balances }

theorem balance?_withBalance : (store.withBalance balance).balance? account asset =
    if balance.account = account ∧ balance.asset = asset then some balance
    else store.balance? account asset :=
  find?_putBalance balance store.balances

theorem worth_withBalance : (store.withBalance balance).worth account asset =
    if balance.account = account ∧ balance.asset = asset then balance.worth
    else store.worth account asset := by
  unfold worth
  rw [balance?_withBalance]
  by_cases written : balance.account = account ∧ balance.asset = asset
  · rw [if_pos written, if_pos written]
  · rw [if_neg written, if_neg written]

theorem reservedOf_withBalance : (store.withBalance balance).reservedOf account asset =
    if balance.account = account ∧ balance.asset = asset then balance.reserved.value
    else store.reservedOf account asset := by
  unfold reservedOf
  rw [balance?_withBalance]
  by_cases written : balance.account = account ∧ balance.asset = asset
  · rw [if_pos written, if_pos written]
  · rw [if_neg written, if_neg written]

theorem saveBalance_ok {u : Unit} :
    (saveBalance balance).run store = .ok (u, after) ↔ store.withBalance balance = after :=
  Work.modify_ok

theorem claimBalance_ok : (claimBalance account asset now).run store = .ok (balance, after) ↔
    store.balanceOf account asset now = balance ∧ store.withBalance balance = after := by
  unfold claimBalance
  rw [Work.get_bind_ok]
  cases found : store.balance? account asset with
  | none =>
      simp only [Work.bind_ok, saveBalance_ok, Work.pure_ok, balanceOf, found, Option.getD_none]
      grind
  | some row =>
      simp only [Work.pure_ok, balanceOf, found, Option.getD_some]
      constructor
      · rintro ⟨rfl, rfl⟩
        exact ⟨rfl, by rw [withBalance, putBalance_of_found found]⟩
      · rintro ⟨rfl, rfl⟩
        exact ⟨rfl, by rw [withBalance, putBalance_of_found found]⟩

theorem withBalance_withBalance
    (same : other.account = balance.account ∧ other.asset = balance.asset) :
    (store.withBalance other).withBalance balance = store.withBalance balance := by
  simp only [withBalance, putBalance_putBalance same]

variable {reservation old : WalletReservation} {reservations : List WalletReservation} {α : Type}

theorem map_id_putReservation (reservation : WalletReservation)
    (reservations : List WalletReservation) :
    (putReservation reservation reservations).map (·.id) = reservations.map (·.id) := by
  induction reservations with
  | nil => rfl
  | cons row rest ih => grind [putReservation]

/-- The row that a search finds is found in its new state, if that is what the search is for. -/
theorem find?_putReservation {p : WalletReservation → Bool} (found : reservations.find? p = some old)
    (sameId : reservation.id = old.id) (selected : p reservation = true) :
    (putReservation reservation reservations).find? p = some reservation := by
  induction reservations with
  | nil => contradiction
  | cons row rest ih => grind [putReservation]

theorem sum_putReservation (f : WalletReservation → ℚ)
    (found : reservations.find? (·.id == reservation.id) = some old) :
    ((putReservation reservation reservations).map f).sum =
      (reservations.map f).sum + f reservation - f old := by
  induction reservations with
  | nil => contradiction
  | cons row rest ih =>
      rw [List.find?_cons] at found
      split at found
      · next same =>
          cases found
          rw [putReservation, if_pos same, List.map_cons, List.map_cons, List.sum_cons,
            List.sum_cons]
          ring
      · next different =>
          rw [putReservation, if_neg (by simp [different]), List.map_cons, List.map_cons,
            List.sum_cons, List.sum_cons, ih found]
          ring

/-- A selection that holds the row before and after the write holds the new row in its place. -/
theorem filter_putReservation {p : WalletReservation → Bool} (same : p reservation = p old)
    (found : reservations.find? (·.id == reservation.id) = some old) :
    (putReservation reservation reservations).filter p =
      if p old then putReservation reservation (reservations.filter p)
      else reservations.filter p := by
  induction reservations with
  | nil => contradiction
  | cons row rest ih => grind [putReservation]

/-- The store with a new reservation, and an identifier handed out for it. -/
def withNewReservation (store : Store) (reservation : WalletReservation) : Store :=
  { store with minted := store.minted + 1, reservations := store.reservations ++ [reservation] }

/-- The store with a reservation written in place of the one with its identifier. -/
def withReservation (store : Store) (reservation : WalletReservation) : Store :=
  { store with reservations := putReservation reservation store.reservations }

theorem saveReservation_ok {u : Unit} : (saveReservation reservation).run store = .ok (u, after) ↔
    store.reservations.any (·.id == reservation.id) = true ∧
      store.withReservation reservation = after := by
  unfold saveReservation
  rw [Work.get_bind_ok]
  simp only [Work.refuse_if_ok, Work.set_ok, not_not, withReservation]

theorem insertReservation_ok {u : Unit} :
    (insertReservation reservation).run store = .ok (u, after) ↔
      ¬(reservation.status = .active ∧
        (store.activeReservation? reservation.orderId).isSome = true) ∧
      { store with reservations := store.reservations ++ [reservation] } = after := by
  unfold insertReservation
  rw [Work.get_bind_ok]
  simp only [Work.refuse_if_ok, Work.set_ok]

theorem activeReservation?_some {orderId : String}
    (found : store.activeReservation? orderId = some reservation) :
    reservation ∈ store.reservations ∧ reservation.orderId = orderId ∧
      reservation.status = .active := by
  have holds := List.find?_some found
  simp only [Bool.and_eq_true, beq_iff_eq] at holds
  exact ⟨List.mem_of_find?_eq_some found, holds.1, holds.2⟩

theorem activeReservation?_withReservation {orderId : String}
    (active : store.activeReservation? orderId = some old) (drawn : old.Drawn reservation) :
    (store.withReservation reservation).activeReservation? orderId = some reservation := by
  obtain ⟨-, owner, holding⟩ := activeReservation?_some active
  exact find?_putReservation active drawn.id
    (by simp [drawn.orderId, owner, drawn.status, holding])

end SpotSettlement.Store
