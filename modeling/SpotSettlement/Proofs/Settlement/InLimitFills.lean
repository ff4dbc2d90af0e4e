import SpotSettlement.Proofs.Settlement.Closing
import SpotSettlement.Proofs.Settlement.Coverage
import SpotSettlement.Proofs.Settlement.Refusals

namespace SpotSettlement

/-! # Fills within the limit of their order

A fill that an open order asks for is paid from the reservation of the order: it cannot fail for
want of funds, whatever else the account has on its hands, and what the account has available does
not become less.
-/

open Decimal

/-- What a report without a fee moves of an asset: positive comes in, negative goes out. -/
def ExecutionReport.movementOf (report : ExecutionReport) (pair : AssetPair) (asset : String) : ℚ :=
  report.side.sign * ((if pair.base = asset then report.quantity.value else 0) -
    if pair.quote = asset then report.quantity.value * report.price.value else 0)

/-- The report is of a fill that the order asks for, without a fee and of no more than is left. -/
structure Order.AsksFor (order : Order) (catalog : InstrumentCatalog) (pair : AssetPair)
    (report : ExecutionReport) : Prop where
  side : report.side = order.side
  listed : catalog.assetPair report.instrument = some pair
  price : order.side = .buy → ∀ limit, order.limitPrice = some limit →
    report.price.value ≤ limit.value
  fee : report.fee.value = 0
  quantity : report.quantity.value ≤ order.quantity.value - order.filled.value

namespace Order.AsksFor

variable {order : Order} {catalog : InstrumentCatalog} {pair : AssetPair} {report : ExecutionReport}
  {store : Store} {asset : String}

theorem asks (asksFor : order.AsksFor catalog pair report) (store : Store) :
    order.Asks catalog pair (Terms.executionOf store order report) where
  side := asksFor.side
  listed := asksFor.listed
  price := asksFor.price
  fee _ := asksFor.fee

theorem movementOf_eq (asksFor : order.AsksFor catalog pair report) (asset : String) :
    FillEconomics.movementOf (Terms.executionOf store order report) pair
      (report.quantity.value * report.price.value) asset = report.movementOf pair asset := by
  have fee : (if report.feeAsset = some asset then report.fee.value else 0) = 0 := by
    rw [asksFor.fee, ite_self]
  exact (congrArg (_ - ·) fee).trans (sub_zero _)

/-- Nothing but the reserved asset goes out. -/
theorem movementOf_nonneg (asksFor : order.AsksFor catalog pair report)
    (valid : report.validate = .ok ()) (other : order.reservedAsset pair ≠ asset) :
    0 ≤ report.movementOf pair asset := by
  obtain ⟨quantity, price⟩ := ExecutionReport.validate_ok valid
  have worth := mul_pos quantity price
  unfold Order.reservedAsset at other
  unfold ExecutionReport.movementOf
  rw [asksFor.side]
  cases side : order.side <;> simp only [side] at other <;> simp only [Side.sign, if_neg other]
  case buy => split <;> linarith
  case sell => split <;> linarith

end Order.AsksFor

namespace Funds

variable {store after : Store} {order : Order} {report : ExecutionReport} {pair : AssetPair}
  {catalog : InstrumentCatalog} {economics : FillEconomics} {deltas : AssetTotals} {now : Instant}

/-- What the order asks for is covered by what it reserves. -/
theorem coversDeltas_of_reserves (asksFor : order.AsksFor catalog pair report)
    (valid : report.validate = .ok ())
    (valueExact : (Operation.mul report.quantity report.price).Exact)
    (netExact : Exact (AssetTotals.movementsArithmetic economics.movements []))
    (valued : FillEconomics.ofExecution (Terms.executionOf store order report) pair = .ok economics)
    (netted : economics.netDeltas = .ok deltas) (funded : store.Funded)
    (member : order ∈ store.orders) (reserving : order.reserves = true)
    (covers : store.Covers order.id) (reserves : store.Reserves order pair) :
    CoversDeltas order.account store ⟨store.activeReservation? order.id, false, []⟩ deltas ∧
      ∀ asset, AssetTotals.sumOf asset deltas = report.movementOf pair asset := by
  obtain ⟨quantity, price⟩ := ExecutionReport.validate_ok valid
  have sums : ∀ asset, AssetTotals.sumOf asset deltas = report.movementOf pair asset := by
    intro asset
    rw [economics.netDeltas_exact netExact netted,
      FillEconomics.sumOf_movements valueExact valued asset]
    exact asksFor.movementOf_eq asset
  refine ⟨?_, sums⟩
  intro delta listed negative
  obtain ⟨held, active, asset, covered⟩ := reserves
  obtain ⟨-, -, owner, -, -, -⟩ := (funded.backing.backed order member).of_active active
  obtain ⟨-, -, holding⟩ := Store.activeReservation?_some active
  have amount := sums delta.1
  rw [AssetTotals.sumOf_of_mem (FillEconomics.netDeltas_nodup netted) listed] at amount
  -- Only the reserved asset goes out, so this is the movement that the reservation is for.
  have same : order.reservedAsset pair = delta.1 := by
    by_contra other
    have incoming := asksFor.movementOf_nonneg valid other
    linarith
  have cost := (asksFor.asks store).movement_le reserving
    (funded.backing.priced order member) quantity price
  change max 0 (-FillEconomics.movementOf (Terms.executionOf store order report) pair
    (report.quantity.value * report.price.value) (order.reservedAsset pair)) ≤
      report.quantity.value * order.unitCost at cost
  rw [asksFor.movementOf_eq, same, ← amount] at cost
  have unitCost : 0 ≤ order.unitCost := by
    have worth := (le_max_left 0 _).trans cost
    exact nonneg_of_mul_nonneg_right worth quantity
  have rest : report.quantity.value * order.unitCost ≤
      (order.quantity.value - order.filled.value) * order.unitCost :=
    mul_le_mul_of_nonneg_right asksFor.quantity unitCost
  have within : -delta.2.value ≤ held.amount.value :=
    (le_max_right 0 _).trans (cost.trans (rest.trans covered))
  have reserved := covers held active
  rw [owner, asset, same] at reserved
  exact ⟨held, active, asset.trans same, holding, within, within.trans reserved⟩

end Funds

namespace Terms

variable {terms : Terms} {store after : Store} {order : Order} {report : ExecutionReport}
  {pair : AssetPair} {now : Instant}

/-- The report is about an order that asks for the fill and has what it may cost reserved, and
nothing of applying it rounds. -/
structure WithinLimit (terms : Terms) (store : Store) (order : Order) (pair : AssetPair)
    (report : ExecutionReport) (now : Instant) : Prop where
  funded : store.Funded
  available : store.unitOutage = none
  member : order ∈ store.orders
  reserving : order.reserves = true
  covers : store.Covers order.id
  reserves : store.Reserves order pair
  valid : report.validate = .ok ()
  resolved : store.resolveOrder? report.exchange report.exchangeOrderId report.clientOrderId =
    some order
  fresh : store.hasExecution (report.exchange, report.instrument, report.tradeId) = false
  asksFor : order.AsksFor terms.catalog pair report
  exact : Exact (terms.fillArithmetic order report store now)

/-- What goes out is drawn from the reservation of the order and from the reserved part of the
balance; what comes in is available. -/
structure Draws (store settled : Store) (order : Order) (movement : String → ℚ) : Prop where
  available : ∀ asset, settled.availableOf order.account asset =
    store.availableOf order.account asset + max 0 (movement asset)
  left : ∀ asset, heldIn asset (settled.activeReservation? order.id) =
    heldIn asset (store.activeReservation? order.id) - max 0 (-movement asset)
  reserved : ∀ asset, settled.reservedOf order.account asset =
    store.reservedOf order.account asset - max 0 (-movement asset)

/-- The fill is settled, out of the reservation alone. -/
theorem WithinLimit.settles (within : terms.WithinLimit store order pair report now) :
    ∃ economics deltas balances settled,
      FillEconomics.ofExecution (executionOf store order report) pair = .ok economics ∧
      economics.netDeltas = .ok deltas ∧
      (Funds.settleFill order.account order.id deltas now).run
        (store.withExecution (executionOf store order report)) = .ok (balances, settled) ∧
      Draws store settled order (report.movementOf pair) ∧
      ∀ transaction, LedgerTransaction.ofExecution (Store.identifier (settled.minted + 1))
          (executionOf store order report) economics now = .ok transaction →
        Exact (advanceArithmetic order report settled now) := by
  have worthExact : (Operation.mul (executionOf store order report).quantity
      (executionOf store order report).price).Exact := by
    have exact := within.exact
    rw [fillArithmetic, within.asksFor.listed] at exact
    exact (exact_cons_iff.mp exact).1
  obtain ⟨economics, valued⟩ := FillEconomics.ofExecution_exists worthExact pair
  have exact := within.exact
  simp only [fillArithmetic, within.asksFor.listed, valued, exact_cons_iff, settlementArithmetic,
    exact_append_iff] at exact
  obtain ⟨valueExact, netExact, exact⟩ := exact
  obtain ⟨deltas, netted⟩ := FillEconomics.netDeltas_exists netExact
  rw [netted] at exact
  obtain ⟨settleExact, bookExact⟩ := exact_append_iff.mp exact
  obtain ⟨covers, sums⟩ := Funds.coversDeltas_of_reserves within.asksFor within.valid valueExact
    netExact valued netted within.funded within.member within.reserving within.covers
    within.reserves
  obtain ⟨balances, settled, settle, effect⟩ := Funds.settleFill_covered settleExact
    within.funded.solvent (within.funded.backing.backed order within.member)
    (FillEconomics.netDeltas_nodup netted) covers
  refine ⟨economics, deltas, balances, settled, valued, netted, settle, ?_, ?_⟩
  · rw [← funext sums]
    exact ⟨fun asset => (effect asset).1, fun asset => (effect asset).2.1,
      fun asset => (effect asset).2.2⟩
  · intro transaction booked
    simp only [settle, booked] at bookExact
    exact bookExact

/-- What is left of the reservation is in the reserved part of the balance, so that closing the
order can give it back. -/
theorem WithinLimit.covers_left (within : terms.WithinLimit store order pair report now)
    {deltas : AssetTotals} {balances : List WalletBalance} {settled : Store}
    (settle : (Funds.settleFill order.account order.id deltas now).run
      (store.withExecution (executionOf store order report)) = .ok (balances, settled))
    (draws : Draws store settled order (report.movementOf pair)) :
    Funds.Covered settled order.id order.account ∧ settled.Covers order.id := by
  have backed := within.funded.backing.backed order within.member
  have drawn := Funds.settleFill_backs settle within.funded.identified.reservations.1 backed
  have covered := drawn.backed.covered
  refine ⟨covered, ?_⟩
  intro rest active
  have left := draws.left rest.asset
  rw [active, heldIn_some, if_pos rfl] at left
  rw [(covered rest active).1, left, draws.reserved]
  apply sub_le_sub_right
  cases before : store.activeReservation? order.id with
  | none =>
      rw [← store.balanceOf_reserved order.account rest.asset now]
      exact (within.funded.solvent.balanceOf _ _ _).2
  | some held =>
      rw [heldIn_some]
      split
      · next same =>
          have enough := within.covers held before
          rw [(backed.covered held before).1, same] at enough
          exact enough
      · rw [← store.balanceOf_reserved order.account rest.asset now]
        exact (within.funded.solvent.balanceOf _ _ _).2

/-- An order that a fill has closed can be given back what is left of its reservation. -/
theorem releaseIfClosed_exists {settled closing : Store} {fill : FillTransition} {moved : Order}
    (covers : settled.Covers order.id) (exact : Exact (advanceArithmetic order report settled now))
    (advance : order.applyFill report.quantity report.reportedStatus now = .ok (fill, moved))
    (reservations : closing.reservations = settled.reservations)
    (balances : closing.balances = settled.balances) :
    ∃ released after, (releaseIfClosed moved now).run closing = .ok (released, after) := by
  have same := (Order.applyFill_advances advance).id
  rw [advanceArithmetic, exact_cons_iff] at exact
  simp only [advance, closingArithmetic] at exact
  replace exact := exact.2
  unfold releaseIfClosed
  cases closingStatus : Funds.closingStatus moved.status with
  | none => exact ⟨none, closing, rfl⟩
  | some status =>
      rw [closingStatus, Option.isSome_some, if_pos rfl] at exact
      rw [same] at exact ⊢
      refine Funds.releaseFor_exists ?_ ?_ status
      · simpa only [Store.Covers, Store.activeReservation?, Store.reservedOf, Store.balance?,
          reservations, balances] using covers
      · simpa only [Funds.releaseArithmetic, Store.activeReservation?, Store.balanceOf,
          Store.balance?, reservations, balances] using exact

/-- Applying a fill within the limit does not fail because of the wallets. -/
theorem WithinLimit.applyFill_spares (within : terms.WithinLimit store order pair report now) :
    SparesWallets ((terms.applyFill order report now).run store) := by
  obtain ⟨economics, deltas, balances, settled, valued, netted, settle, draws, closeExact⟩ :=
    within.settles
  obtain ⟨-, covers⟩ := within.covers_left settle draws
  unfold applyFill
  refine Work.spares_bind (sparesWallets_ok _) fun _ _ minted => ?_
  obtain ⟨rfl, rfl⟩ := Store.mint_ok.mp minted
  refine Work.spares_bind (Work.spares_modify _) fun _ _ appended => ?_
  obtain rfl := Work.modify_ok.mp appended
  simp only [within.asksFor.listed]
  refine Work.spares_bind (Work.spares_lift _) fun _ _ given => ?_
  obtain ⟨same, rfl⟩ := Work.lift_ok.mp given
  obtain rfl := Except.ok.inj (valued.symm.trans same)
  refine Work.spares_bind (Work.spares_lift _) fun _ _ given => ?_
  obtain ⟨same, rfl⟩ := Work.lift_ok.mp given
  obtain rfl := Except.ok.inj (netted.symm.trans same)
  refine Work.spares_bind (Work.spares_of_ok settle) fun _ _ again => ?_
  obtain ⟨rfl, rfl⟩ := Prod.mk.inj (Except.ok.inj (settle.symm.trans again))
  refine Work.spares_bind (sparesWallets_ok _) fun _ _ minted => ?_
  obtain ⟨rfl, rfl⟩ := Store.mint_ok.mp minted
  refine Work.spares_bind (Work.spares_failing LedgerTransaction.ofExecution_spares)
    fun transaction _ booking => ?_
  obtain ⟨booked, rfl⟩ := Work.failing_ok.mp booking
  refine Work.spares_bind (Work.spares_modify _) fun _ _ appended => ?_
  obtain rfl := Work.modify_ok.mp appended
  refine Work.spares_bind (Work.spares_failing Order.applyFill_spares) fun result _ filling => ?_
  obtain ⟨advance, rfl⟩ := Work.failing_ok.mp filling
  refine Work.spares_bind Store.updateOrder_spares fun _ _ updated => ?_
  obtain ⟨-, rfl⟩ := Store.updateOrder_ok.mp updated
  obtain ⟨released, closed, close⟩ := releaseIfClosed_exists covers
    (closeExact transaction booked) advance
    (rfl : ((settled.withTransaction transaction).withOrder result.2).reservations = _) rfl
  refine Work.spares_bind (Work.spares_of_ok close) fun _ _ _ => ?_
  refine Work.spares_bind (sparesWallets_ok _) fun _ _ _ => ?_
  refine Work.spares_bind (announce_spares (ExecutionRecorded.validate_spares _)) fun _ _ _ => ?_
  refine Work.spares_bind announceOrder_spares fun _ _ _ => ?_
  exact Work.spares_bind announceBalances_spares fun _ _ _ => Work.spares_pure _

theorem WithinLimit.processFill_spares (within : terms.WithinLimit store order pair report now) :
    SparesWallets ((terms.processFill report now).run store) := by
  unfold processFill
  refine Work.spares_bind (Work.spares_lift _) fun _ _ validated => ?_
  obtain ⟨-, rfl⟩ := Work.lift_ok.mp validated
  have started : Work.start.run store = .ok ((), store) :=
    Work.start_ok.mpr ⟨within.available, rfl⟩
  refine Work.spares_bind (Work.spares_of_ok started) fun _ _ again => ?_
  obtain ⟨-, rfl⟩ := Work.start_ok.mp again
  refine Work.spares_bind (sparesWallets_ok _) fun found _ got => ?_
  obtain ⟨rfl, rfl⟩ := Prod.mk.inj (Except.ok.inj got)
  simp only [within.resolved, within.fresh, Bool.false_eq_true, if_false]
  exact within.applyFill_spares

end Terms

/-- A movement of an asset is paid from the reservation of an order, in that asset: the reservation
covers what goes out, and loses it with the reserved part of the balance; what comes in is
available.  If the order is closed with it, the rest of the reservation becomes available too. -/
def Store.PaidFromReservation (store after : Store) (order : Order) (asset : String)
    (movement : ℚ) : Prop :=
  ∃ held, store.activeReservation? order.id = some held ∧ held.asset = asset ∧
    max 0 (-movement) ≤ held.amount.value ∧
    ((∃ rest, after.activeReservation? order.id = some rest ∧ rest.asset = asset ∧
        rest.amount.value = held.amount.value - max 0 (-movement) ∧
        after.reservedOf order.account asset =
          store.reservedOf order.account asset - max 0 (-movement) ∧
        after.availableOf order.account asset =
          store.availableOf order.account asset + max 0 movement) ∨
      after.activeReservation? order.id = none ∧
        after.reservedOf order.account asset =
          store.reservedOf order.account asset - held.amount.value ∧
        after.availableOf order.account asset = store.availableOf order.account asset +
          max 0 movement + (held.amount.value - max 0 (-movement)))

namespace Terms

variable {terms : Terms} {store after : Store} {order : Order} {report : ExecutionReport}
  {pair : AssetPair} {now : Instant}

/-- The reservation is still there after settling, with what was not drawn. -/
theorem WithinLimit.leaves_rest (within : terms.WithinLimit store order pair report now)
    {deltas : AssetTotals} {balances : List WalletBalance} {settled : Store}
    (settle : (Funds.settleFill order.account order.id deltas now).run
      (store.withExecution (executionOf store order report)) = .ok (balances, settled))
    (draws : Draws store settled order (report.movementOf pair)) :
    ∃ held rest, store.activeReservation? order.id = some held ∧
      held.asset = order.reservedAsset pair ∧
      settled.activeReservation? order.id = some rest ∧
      rest.asset = order.reservedAsset pair ∧ 0 ≤ rest.amount.value ∧
      rest.amount.value =
        held.amount.value - max 0 (-report.movementOf pair (order.reservedAsset pair)) := by
  obtain ⟨covered, -⟩ := within.covers_left settle draws
  obtain ⟨held, active, asset, -⟩ := within.reserves
  have related := Funds.settleFill_drawn settle
  change Option.Rel WalletReservation.Drawn (store.activeReservation? order.id) _ at related
  rw [active] at related
  cases remaining : settled.activeReservation? order.id with
  | none =>
      rw [remaining] at related
      contradiction
  | some rest =>
      rw [remaining] at related
      obtain ⟨kept⟩ := related
      have restAsset := kept.asset.trans asset
      have left := draws.left (order.reservedAsset pair)
      rw [remaining, active, heldIn_some, heldIn_some, if_pos asset, if_pos restAsset] at left
      exact ⟨held, rest, active, asset, rfl, restAsset, (covered rest remaining).2, left⟩

/-- An order that is closed gets what its reservation still holds. -/
theorem releaseIfClosed_frees {moved : Order} {released : Option WalletBalance}
    (close : (releaseIfClosed moved now).run store = .ok (released, after))
    (exact : Exact (closingArithmetic moved store now))
    (unique : (store.reservations.map (·.id)).Nodup)
    (backed : order.BackedBy (store.reservationsOf order.id)) (advances : order.Advances moved)
    (covered : Funds.Covered store order.id order.account) :
    after = store ∨ after.activeReservation? order.id = none ∧ ∀ asset,
      after.availableOf order.account asset = store.availableOf order.account asset +
        heldIn asset (store.activeReservation? order.id) ∧
      after.reservedOf order.account asset = store.reservedOf order.account asset -
        heldIn asset (store.activeReservation? order.id) := by
  obtain ⟨-, -, same⟩ | ⟨status, closing, release⟩ := releaseIfClosed_cases close
  · exact .inl same
  · have backs := releaseIfClosed_backs close unique backed advances
    have terminal : moved.status.isTerminal = true := by
      rw [← OrderStatus.isSome_closingStatus, closing, Option.isSome_some]
    rw [closingArithmetic, closing, Option.isSome_some, if_pos rfl, advances.id] at exact
    rw [advances.id] at release
    refine .inr ⟨?_, Funds.releaseFor_frees release exact covered⟩
    rw [Store.activeReservation?_eq, List.find?_eq_none, ← advances.id]
    intro reservation member
    simpa using backs.backed.inactive terminal reservation member

/-- A fill within the limit that is applied is paid from the reservation, and leaves no less
available of any asset. -/
theorem WithinLimit.fills_paid {outcome : IngestOutcome}
    (within : terms.WithinLimit store order pair report now)
    (fills : terms.Fills order report now store outcome after) :
    store.PaidFromReservation after order (order.reservedAsset pair)
        (report.movementOf pair (order.reservedAsset pair)) ∧
      ∀ asset, store.availableOf order.account asset ≤ after.availableOf order.account asset := by
  obtain ⟨economics, deltas, balances, settled, valued, netted, settle, draws, closeExact⟩ :=
    within.settles
  obtain ⟨covered, -⟩ := within.covers_left settle draws
  obtain ⟨held, rest, active, asset, remaining, restAsset, nonneg, left⟩ :=
    within.leaves_rest settle draws
  have paid : max 0 (-report.movementOf pair (order.reservedAsset pair)) ≤ held.amount.value := by
    linarith
  have increases : ∀ asset, store.availableOf order.account asset ≤
      settled.availableOf order.account asset := by
    intro asset
    rw [draws.available]
    exact le_add_of_nonneg_right (le_max_left 0 _)
  cases fills with
  | @applied reportPair _ _ _ _ transaction fill moved released closed _ _ _ _ listed valuedAgain
      nettedAgain settleAgain booked advance close _ _ _ _ =>
      obtain rfl := Option.some.inj (within.asksFor.listed.symm.trans listed)
      obtain rfl := Except.ok.inj (valued.symm.trans valuedAgain)
      obtain rfl := Except.ok.inj (netted.symm.trans nettedAgain)
      obtain ⟨rfl, rfl⟩ := Prod.mk.inj (Except.ok.inj (settle.symm.trans settleAgain))
      have exact := closeExact transaction booked
      rw [advanceArithmetic, advance, exact_cons_iff] at exact
      have unique := ((Funds.settleFill_funds settle).issued
        (within.funded.identified.reservations.mono (Nat.le_succ _))).1
      have drawn := Funds.settleFill_backs settle within.funded.identified.reservations.1
        (within.funded.backing.backed order within.member)
      -- Neither booking the fill nor saving the order touches the wallets.
      obtain rfl | ⟨inactive, frees⟩ := releaseIfClosed_frees close exact.2 unique drawn.backed
        (Order.applyFill_advances advance) covered
      · exact ⟨⟨held, active, asset, paid, .inl ⟨rest, remaining, restAsset, left,
          draws.reserved _, draws.available _⟩⟩, increases⟩
      · change ∀ asset, closed.availableOf order.account asset =
            settled.availableOf order.account asset +
              heldIn asset (settled.activeReservation? order.id) ∧
          closed.reservedOf order.account asset = settled.reservedOf order.account asset -
            heldIn asset (settled.activeReservation? order.id) at frees
        simp only [remaining, heldIn_some] at frees
        obtain ⟨available, reserved⟩ := frees (order.reservedAsset pair)
        rw [if_pos restAsset, draws.available, left] at available
        rw [if_pos restAsset, draws.reserved, left] at reserved
        refine ⟨⟨held, active, asset, paid, .inr ⟨inactive, ?_, available⟩⟩, ?_⟩
        · exact reserved.trans (by ring)
        · intro asset
          refine (increases asset).trans (le_of_le_of_eq (le_add_of_nonneg_right ?_)
            (frees asset).1.symm)
          split
          · exact nonneg
          · exact le_refl 0

end Terms

/-! The sample purchase again, now for less than its limit and without a fee. -/

namespace Sample

def bargain (tradeId : String) : ExecutionReport :=
  { trade none with tradeId, price := units 95, feeAsset := none, fee := units 0 }

def halfBought : List Request :=
  acknowledged ++ [.settle (.fill (bargain "t-1")) terms start]

end Sample

namespace Store

/-- A sale, or a purchase with a limit, that has been filled only as it asks takes any further fill
that it asks for: the fill never fails because of the wallets, and if it is applied it is paid from
the reservation of the order. -/
theorem reservations_cover_fills (terms : Terms) (run : List Request)
    (nonneg : ∀ request ∈ run, request.Nonnegative)
    (under : ∀ request ∈ run, request.Under terms.catalog)
    (exact : Exact (({} : Store).arithmetic run)) {order : Order}
    (member : order ∈ (reached run).orders)
    (status : order.status = .acknowledged ∨ order.status = .partiallyFilled)
    (kind : order.side = .sell ∨ order.orderType = .limit) {pair : AssetPair}
    (listed : terms.catalog.assetPair order.instrument = some pair)
    (asked : (reached run).FilledAsAsked terms.catalog order pair) {report : ExecutionReport}
    (valid : report.validate = .ok ())
    (resolved : (reached run).resolveOrder? report.exchange report.exchangeOrderId
      report.clientOrderId = some order)
    (fresh :
      (reached run).hasExecution (report.exchange, report.instrument, report.tradeId) = false)
    (asksFor : order.AsksFor terms.catalog pair report) (now : Instant)
    (reportExact : Exact (terms.reportArithmetic report (reached run) now)) :
    (∀ cause : WalletError, ((reached run).perform (terms.processFill report now)).1 ≠
      .error (.refused (.wallet cause))) ∧
    ∀ outcome after, (reached run).perform (terms.processFill report now) = (.ok outcome, after) →
      (∃ executionId status, outcome = .inserted executionId order.id status) ∧
      (reached run).PaidFromReservation after order (order.reservedAsset pair)
        (report.movementOf pair (order.reservedAsset pair)) ∧
      ∀ asset, (reached run).availableOf order.account asset ≤
        after.availableOf order.account asset := by
  have funded : (reached run).Funded := afterAll_funded nonneg empty_funded
  have reserving : order.reserves = true := by
    unfold Order.reserves
    obtain side | type := kind
    · simp [side]
    · simp [type]
  have openStatus : order.status.isTerminal = false := by
    obtain status | status := status <;> rw [status] <;> rfl
  have reservesOpen : (reached run).ReservesOpen terms.catalog :=
    afterAll_reservesOpen nonneg under exact empty_funded fun _ none => absurd none (by simp)
  rw [Terms.reportArithmetic_eq valid resolved fresh] at reportExact
  have within : terms.WithinLimit (reached run) order pair report now :=
    ⟨funded, reached_available run, member, reserving,
      (reached_balanced nonneg exact).covers funded.backing order.id,
      reservesOpen order member reserving openStatus pair listed asked, valid, resolved, fresh,
      asksFor, reportExact⟩
  constructor
  · intro cause failed
    have spares := within.processFill_spares
    unfold perform at failed
    cases outcome : (terms.processFill report now).run (reached run) with
    | ok result => simp [outcome] at failed
    | error failure =>
        simp only [outcome, Except.error.injEq] at failed
        exact spares cause (by rw [outcome, failed])
  · intro outcome after done
    obtain ⟨-, -, ⟨absent, -, -⟩ | ⟨found, again, ⟨recorded, -, -⟩ | ⟨-, fills⟩⟩⟩ :=
      Terms.processFill_cases (perform_ok_iff.mp done)
    · rw [resolved] at absent
      contradiction
    · rw [fresh] at recorded
      contradiction
    · obtain rfl := Option.some.inj (resolved.symm.trans again)
      obtain ⟨_, moved, advance, -, inserted⟩ := fills_orders fills
      rw [(Order.applyFill_advances advance).id] at inserted
      exact ⟨⟨_, _, inserted⟩, within.fills_paid fills⟩

/-- The second of two bitcoin, bought at 95 each without a fee, is paid from what the first has left
of the reservation. -/
theorem sample_reservation_covers_fill :
    ∃ order ∈ (reached Sample.halfBought).orders,
      (∀ cause : WalletError, ((reached Sample.halfBought).perform
        (Sample.terms.processFill (Sample.bargain "t-2") Sample.start)).1 ≠
          .error (.refused (.wallet cause))) ∧
      ∃ outcome after, (reached Sample.halfBought).perform
          (Sample.terms.processFill (Sample.bargain "t-2") Sample.start) = (.ok outcome, after) ∧
        (∃ executionId status, outcome = .inserted executionId order.id status) ∧
        (reached Sample.halfBought).PaidFromReservation after order "USDT"
          ((Sample.bargain "t-2").movementOf ⟨"BTC", "USDT"⟩ "USDT") ∧
        ∀ asset, (reached Sample.halfBought).availableOf order.account asset ≤
          after.availableOf order.account asset := by
  have bought : ∃ order ∈ (reached Sample.halfBought).orders, order.status = .partiallyFilled ∧
      order.side = .buy ∧ order.orderType = .limit ∧
      Sample.terms.catalog.assetPair order.instrument = some ⟨"BTC", "USDT"⟩ ∧
      (reached Sample.halfBought).resolveOrder? (Sample.bargain "t-2").exchange
        (Sample.bargain "t-2").exchangeOrderId (Sample.bargain "t-2").clientOrderId = some order ∧
      (∀ execution ∈ (reached Sample.halfBought).executions, execution.side = order.side ∧
        Sample.terms.catalog.assetPair execution.instrument = some ⟨"BTC", "USDT"⟩ ∧
        (∀ limit ∈ order.limitPrice, execution.price.value ≤ limit.value) ∧
        execution.fee.value = 0) ∧
      (∀ limit ∈ order.limitPrice, (Sample.bargain "t-2").price.value ≤ limit.value) ∧
      (Sample.bargain "t-2").quantity.value ≤ order.quantity.value - order.filled.value := by
    decide +kernel
  have applied : ((reached Sample.halfBought).perform
      (Sample.terms.processFill (Sample.bargain "t-2") Sample.start)).1.isOk = true := by
    decide +kernel
  obtain ⟨order, member, status, side, limit, listed, resolved, asked, price, quantity⟩ := bought
  have covered := reservations_cover_fills Sample.terms Sample.halfBought (by decide +kernel)
    (by decide +kernel) (by decide +kernel) member (.inr status) (.inr limit) listed
    (fun execution stored _ => ⟨(asked execution stored).1, (asked execution stored).2.1,
      fun _ => (asked execution stored).2.2.1, fun _ => (asked execution stored).2.2.2⟩)
    (by decide +kernel) resolved (by decide +kernel)
    ⟨side.symm, by decide +kernel, fun _ => price, by decide +kernel, quantity⟩ Sample.start
    (by decide +kernel)
  have asset : order.reservedAsset ⟨"BTC", "USDT"⟩ = "USDT" := by
    rw [Order.reservedAsset, side]
  rw [asset] at covered
  rcases done : (reached Sample.halfBought).perform
    (Sample.terms.processFill (Sample.bargain "t-2") Sample.start) with ⟨outcome | outcome, after⟩
  · rw [done] at applied
    exact absurd applied Bool.false_ne_true
  · rw [done] at covered
    exact ⟨order, member, covered.1, outcome, after, rfl, covered.2 outcome after rfl⟩

end Store

end SpotSettlement
