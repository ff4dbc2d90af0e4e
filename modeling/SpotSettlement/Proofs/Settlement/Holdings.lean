import SpotSettlement.Proofs.Outbox.Payloads
import SpotSettlement.Proofs.Settlement.Reservations

namespace SpotSettlement

/-! # Where reserved funds can go

Every order has a name, and every reservation is of a named account and in a named asset, and has a
balance that its funds can go back to.  Creating an order announces it and the balance that it
reserves from, and neither is announced without its names; afterwards no balance is removed and no
reservation changes hands.
-/

namespace Store

variable {store after : Store} {reservation drawn : WalletReservation} {balance : WalletBalance}

theorem mem_of_mem_putReservation {reservations : List WalletReservation}
    (member : reservation ∈ putReservation drawn reservations) :
    reservation = drawn ∨ reservation ∈ reservations := by
  induction reservations with
  | nil => contradiction
  | cons row rest ih => grind [putReservation]

/-- No balance has been removed, and every reservation is of an account and in an asset that one
was of before. -/
structure KeepsHoldings (store after : Store) : Prop where
  rows : ∀ account asset, (store.balance? account asset).isSome = true →
    (after.balance? account asset).isSome = true
  owners : ∀ reservation ∈ after.reservations, ∃ earlier ∈ store.reservations,
    earlier.account = reservation.account ∧ earlier.asset = reservation.asset

theorem KeepsHoldings.refl (store : Store) : store.KeepsHoldings store :=
  ⟨fun _ _ => id, fun reservation member => ⟨reservation, member, rfl, rfl⟩⟩

theorem KeepsHoldings.trans {middle : Store} (first : store.KeepsHoldings middle)
    (second : middle.KeepsHoldings after) : store.KeepsHoldings after where
  rows account asset present := second.rows account asset (first.rows account asset present)
  owners reservation member := by
    obtain ⟨midway, midwayMember, account, asset⟩ := second.owners reservation member
    obtain ⟨earlier, present, sameAccount, sameAsset⟩ := first.owners midway midwayMember
    exact ⟨earlier, present, sameAccount.trans account, sameAsset.trans asset⟩

theorem withBalance_keepsHoldings (store : Store) (balance : WalletBalance) :
    store.KeepsHoldings (store.withBalance balance) where
  rows account asset present := by
    rw [balance?_withBalance]
    split
    · rfl
    · exact present
  owners reservation member := ⟨reservation, member, rfl, rfl⟩

theorem withReservation_keepsHoldings (member : reservation ∈ store.reservations)
    (account : drawn.account = reservation.account) (asset : drawn.asset = reservation.asset) :
    store.KeepsHoldings (store.withReservation drawn) where
  rows _ _ := id
  owners other written := by
    obtain rfl | earlier := mem_of_mem_putReservation written
    · exact ⟨reservation, member, account.symm, asset.symm⟩
    · exact ⟨other, earlier, rfl, rfl⟩

end Store

namespace Funds

variable {store after : Store} {order : Order} {now : Instant} {outcome : Option WalletBalance}
  {orderId account : String} {status : ReservationStatus} {deltas : AssetTotals}
  {progress next : Progress} {balances : List WalletBalance}

theorem releaseFor_keepsHoldings
    (done : (releaseFor orderId status now).run store = .ok (outcome, after)) :
    store.KeepsHoldings after := by
  obtain ⟨-, -, rfl⟩ | ⟨held, balance, active, -, -, rfl⟩ := releaseFor_cases done
  · exact .refl after
  · obtain ⟨member, -, -⟩ := Store.activeReservation?_some active
    have written := store.withBalance_keepsHoldings balance
    exact written.trans (Store.withReservation_keepsHoldings member rfl rfl)

theorem settleAll_keepsHoldings
    (done : (deltas.foldlM (settleDelta account now) progress).run store = .ok (next, after)) :
    store.KeepsHoldings after := by
  induction deltas generalizing store progress with
  | nil =>
      obtain ⟨rfl, rfl⟩ := Work.pure_ok.mp done
      exact .refl store
  | cons delta rest ih =>
      rw [List.foldlM_cons, Work.bind_ok] at done
      obtain ⟨midway, middle, first, others⟩ := done
      obtain ⟨settled, -, rfl, -, -, -⟩ := settleDelta_cases first
      exact (store.withBalance_keepsHoldings settled.balance).trans (ih others)

theorem settleFill_keepsHoldings
    (done : (settleFill account orderId deltas now).run store = .ok (balances, after)) :
    store.KeepsHoldings after := by
  obtain ⟨next, middle, settling, -, saved⟩ := settleFill_cases done
  have settled := settleAll_keepsHoldings settling
  have advance := settleAll_advance settling
  obtain ⟨-, rfl⟩ | ⟨drawn, reservation, rfl⟩ := saved
  · exact settled
  · have related := advance.drawn
    rw [reservation] at related
    cases active : store.activeReservation? orderId with
    | none => rw [active] at related; contradiction
    | some held =>
        rw [active] at related
        obtain ⟨kept⟩ := related
        obtain ⟨member, -, -⟩ := Store.activeReservation?_some active
        have tables : middle.reservations = store.reservations := by rw [advance.tables]
        rw [← tables] at member
        exact settled.trans (Store.withReservation_keepsHoldings member kept.account kept.asset)

end Funds

theorem Terms.releaseIfClosed_keepsHoldings {store after : Store} {order : Order} {now : Instant}
    {released : Option WalletBalance}
    (done : (releaseIfClosed order now).run store = .ok (released, after)) :
    store.KeepsHoldings after := by
  obtain ⟨-, -, rfl⟩ | ⟨status, -, release⟩ := releaseIfClosed_cases done
  · exact .refl after
  · exact Funds.releaseFor_keepsHoldings release

namespace Store

variable {store after : Store} {order moved : Order} {filling : Option ExecutionReport}
  {operations : List Decimal.Operation}

/-- A reservation can be announced, and given back. -/
def Returnable (store : Store) (reservation : WalletReservation) : Prop :=
  Text.isBlank reservation.account = false ∧ Text.isBlank reservation.asset = false ∧
    (store.balance? reservation.account reservation.asset).isSome = true

/-- All orders can be announced, and all reservations given back. -/
structure Grounded (store : Store) : Prop where
  named : ∀ order ∈ store.orders, Text.isBlank order.id = false
  returnable : ∀ reservation ∈ store.reservations, store.Returnable reservation

theorem empty_grounded : ({} : Store).Grounded :=
  ⟨List.forall_mem_nil _, List.forall_mem_nil _⟩

theorem KeepsHoldings.returnable (keeps : store.KeepsHoldings after)
    (returnable : ∀ reservation ∈ store.reservations, store.Returnable reservation) :
    ∀ reservation ∈ after.reservations, after.Returnable reservation := by
  intro reservation member
  obtain ⟨earlier, present, account, asset⟩ := keeps.owners reservation member
  obtain ⟨namedAccount, namedAsset, row⟩ := returnable earlier present
  rw [account] at namedAccount row
  rw [asset] at namedAsset row
  exact ⟨namedAccount, namedAsset, keeps.rows _ _ row⟩

/-- What a new order reserves can be given back, since the balance it came from was announced. -/
theorem reserveFor_returnable {terms : Terms} {pair : AssetPair} {now : Instant}
    {reserved : Option WalletBalance} {rows : List OutboxRow} {reason orderId : String}
    {number : Nat}
    (done : (Funds.reserveFor order pair now).run store = .ok (reserved, after))
    (announced : terms.AnnounceBalances reserved.toList reason orderId number now rows)
    (returnable : ∀ reservation ∈ store.reservations, store.Returnable reservation) :
    ∀ reservation ∈ after.reservations, after.Returnable reservation := by
  obtain ⟨-, -, rfl⟩ | ⟨asset, amount, balance, -, taken, rfl, rfl⟩ := Funds.reserveFor_cases done
  · exact returnable
  · intro reservation member
    have kept := (store.withBalance_keepsHoldings balance).returnable returnable
    obtain earlier | new := List.mem_append.mp member
    · exact kept reservation earlier
    · rw [List.mem_singleton.mp new]
      have keys := store.balanceOf_key order.account asset now
      obtain ⟨-, -, _, -, _, -, same⟩ := WalletBalance.reserve_ok.mp taken
      have key : balance.account = order.account ∧ balance.asset = asset := by
        rw [← same]
        exact keys
      obtain ⟨row, -, announces, -, -⟩ := List.forall₂_cons_left_iff.mp announced
      obtain ⟨account, assetNamed, -, -⟩ := BalanceUpdated.validate_ok.mp announces.validate
      have owner : Text.isBlank order.account = false := key.1 ▸ account
      have held : Text.isBlank asset = false := key.2 ▸ assetNamed
      refine ⟨owner, held, ?_⟩
      have written : (store.withBalance balance).balance? order.account asset = some balance := by
        rw [balance?_withBalance, if_pos key]
      exact Option.isSome_of_eq_some written

theorem Step.returnable (step : store.Step filling operations after)
    (returnable : ∀ reservation ∈ store.reservations, store.Returnable reservation) :
    ∀ reservation ∈ after.reservations, after.Returnable reservation := by
  cases step with
  | idle => exact returnable
  | created _ _ _ reserve _ announcedBalances =>
      have reserved := reserveFor_returnable reserve announcedBalances returnable
      exact reserved
  | moved _ _ _ close _ _ => exact (Terms.releaseIfClosed_keepsHoldings close).returnable returnable
  | filled _ _ fills =>
      cases fills with
      | applied _ _ _ settle _ _ close _ _ _ _ =>
          have settled := (Funds.settleFill_keepsHoldings settle).returnable returnable
          exact (Terms.releaseIfClosed_keepsHoldings close).returnable settled

theorem Step.named (step : store.Step filling operations after)
    (named : ∀ order ∈ store.orders, Text.isBlank order.id = false) :
    ∀ order ∈ after.orders, Text.isBlank order.id = false := by
  intro order member
  cases step with
  | idle => exact named order member
  | created _ _ _ reserve announced _ =>
      have orders := (Funds.reserveFor_funds reserve).orders
      obtain rfl | earlier := mem_placeOrder.mp (orders ▸ member)
      · exact (OrderSubmitted.validate_ok.mp announced.validate).1
      · exact named order earlier
  | moved _ present change close _ _ =>
      have orders := (Terms.releaseIfClosed_funds close).orders
      obtain ⟨earlier, -⟩ | rfl := mem_replaceOrder (orders ▸ member)
      · exact named order earlier
      · rw [change.advances.id]
        exact named _ present
  | filled resolved _ fills =>
      obtain ⟨fill, moved, advance, orders, -⟩ := fills_orders fills
      obtain ⟨earlier, -⟩ | rfl := mem_replaceOrder (orders ▸ member)
      · exact named order earlier
      · rw [(Order.applyFill_advances advance).id]
        exact named _ (Terms.resolveOrder?_mem resolved)

theorem apply_grounded (request : Request) (grounded : store.Grounded) :
    (request.apply store).Grounded := by
  cases request with
  | settle call terms now =>
      have step := call.step terms now store
      exact ⟨step.named grounded.named, step.returnable grounded.returnable⟩
  | seed account asset amount now =>
      obtain ⟨-, -, same⟩ | ⟨available, -, written⟩ := store.seed_cases account asset amount now
      · rw [same]
        exact grounded
      · rw [written]
        exact ⟨grounded.named,
          (store.withBalance_keepsHoldings _).returnable grounded.returnable⟩

theorem reached_grounded (run : List Request) : (reached run).Grounded :=
  afterAll_induction Grounded empty_grounded fun request _ _ => apply_grounded request

end Store

end SpotSettlement
