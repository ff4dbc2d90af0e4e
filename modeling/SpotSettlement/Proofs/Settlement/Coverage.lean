import SpotSettlement.Proofs.Settlement.CoveredFills

namespace SpotSettlement

/-! # What the reservation of an open order covers

As long as an order is filled only as it asks, on its side, in its assets, at no more than its limit
and with no fee in the asset that it reserved, its reservation holds at least what the rest of its
quantity may cost.
-/

open Decimal

namespace Order

variable {order moved : Order} {pair : AssetPair} {catalog : InstrumentCatalog}
  {execution : Execution}

/-- The asset in which the order reserves funds. -/
def reservedAsset (order : Order) (pair : AssetPair) : String :=
  match order.side with
  | .buy => pair.quote
  | .sell => pair.base

/-- What one unit may cost of the reserved asset: the limit of a purchase, the unit itself of a
sale. -/
def unitCost (order : Order) : ℚ :=
  match order.side, order.limitPrice with
  | .buy, some limit => limit.value
  | _, _ => 1

/-- The execution is as the order asks. -/
structure Asks (order : Order) (catalog : InstrumentCatalog) (pair : AssetPair)
    (execution : Execution) : Prop where
  side : execution.side = order.side
  listed : catalog.assetPair execution.instrument = some pair
  price : order.side = .buy → ∀ limit, order.limitPrice = some limit →
    execution.price.value ≤ limit.value
  fee : execution.feeAsset = some (order.reservedAsset pair) → execution.fee.value = 0

theorem LeadsTo.asks_iff (leads : order.LeadsTo moved) :
    moved.Asks catalog pair execution ↔ order.Asks catalog pair execution := by
  rw [leads.kept]
  exact ⟨fun asks => ⟨asks.side, asks.listed, asks.price, asks.fee⟩,
    fun asks => ⟨asks.side, asks.listed, asks.price, asks.fee⟩⟩

theorem LeadsTo.reservedAsset (leads : order.LeadsTo moved) (pair : AssetPair) :
    moved.reservedAsset pair = order.reservedAsset pair := by
  rw [leads.kept]
  rfl

theorem LeadsTo.unitCost (leads : order.LeadsTo moved) : moved.unitCost = order.unitCost := by
  rw [leads.kept]
  rfl

/-- What an execution takes of the reserved asset is at most what its quantity may cost. -/
theorem Asks.movement_le (asks : order.Asks catalog pair execution)
    (reserves : order.reserves = true)
    (priced : order.limitPrice = none ↔ order.orderType = .market)
    (quantity : 0 < execution.quantity.value) (price : 0 < execution.price.value) :
    max 0 (-FillEconomics.movementOf execution pair
      (execution.quantity.value * execution.price.value) (order.reservedAsset pair)) ≤
      execution.quantity.value * order.unitCost := by
  have worth := mul_pos quantity price
  have fee : (if execution.feeAsset = some (order.reservedAsset pair) then execution.fee.value
      else 0) = 0 := by
    split
    · next charged => exact asks.fee charged
    · rfl
  rw [FillEconomics.movementOf, fee, asks.side]
  unfold Order.reservedAsset Order.unitCost
  cases side : order.side with
  | buy =>
      cases limited : order.limitPrice with
      | none =>
          have market := priced.mp limited
          simp [Order.reserves, side, market] at reserves
      | some limit =>
          have within := asks.price side limit limited
          have cost : execution.quantity.value * execution.price.value ≤
              execution.quantity.value * limit.value :=
            mul_le_mul_of_nonneg_left within quantity.le
          simp only [Side.sign, if_true]
          apply max_le
          · linarith
          · split <;> linarith
  | sell =>
      simp only [Side.sign, if_true, mul_one]
      apply max_le
      · exact quantity.le
      · split <;> linarith

end Order

theorem ExecutionReport.validate_ok {report : ExecutionReport} (valid : report.validate = .ok ()) :
    0 < report.quantity.value ∧ 0 < report.price.value := by
  have positive : ∀ {field : String} {value : Decimal} {u : Unit},
      requirePositive field value = .ok u → 0 < value.value := by
    intro field value u given
    unfold requirePositive at given
    split at given
    · next holds => exact isPositive_iff_value.mp holds
    · contradiction
  simp only [validate, bind_ok_iff, ite_eq_iff] at valid
  grind

namespace Store

variable {store after : Store} {order moved : Order} {pair : AssetPair}
  {catalog : InstrumentCatalog} {terms : Terms} {now : Instant}

/-- The order has a reservation that covers what the rest of its quantity may cost. -/
def Reserves (store : Store) (order : Order) (pair : AssetPair) : Prop :=
  ∃ held, store.activeReservation? order.id = some held ∧ held.asset = order.reservedAsset pair ∧
    (order.quantity.value - order.filled.value) * order.unitCost ≤ held.amount.value

/-- The order has been filled only as it asks. -/
def FilledAsAsked (store : Store) (catalog : InstrumentCatalog) (order : Order) (pair : AssetPair) :
    Prop :=
  ∀ execution ∈ store.executions, execution.orderId = order.id →
    order.Asks catalog pair execution

/-- Open orders that reserve funds have what they may cost reserved, unless they were filled in
another way than they ask. -/
def ReservesOpen (store : Store) (catalog : InstrumentCatalog) : Prop :=
  ∀ order ∈ store.orders, order.reserves = true → order.status.isTerminal = false →
    ∀ pair, catalog.assetPair order.instrument = some pair →
      store.FilledAsAsked catalog order pair → store.Reserves order pair

theorem activeReservation?_congr {id : String}
    (same : after.reservationsOf id = store.reservationsOf id) :
    after.activeReservation? id = store.activeReservation? id := by
  rw [activeReservation?_eq, activeReservation?_eq, same]

/-- What changes one order, with its reservation and executions, keeps what others reserve. -/
theorem ReservesOpen.change (moved : Order) (reserving : store.ReservesOpen catalog)
    (orders : ∀ other ∈ after.orders, other = moved ∨ other ∈ store.orders ∧ other.id ≠ moved.id)
    (elsewhere : ∀ id, id ≠ moved.id → after.reservationsOf id = store.reservationsOf id)
    (executions : ∀ execution ∈ store.executions, execution ∈ after.executions)
    (own : moved.reserves = true → moved.status.isTerminal = false →
      ∀ pair, catalog.assetPair moved.instrument = some pair →
        after.FilledAsAsked catalog moved pair → after.Reserves moved pair) :
    after.ReservesOpen catalog := by
  intro other member reserves openStatus pair listed asked
  obtain rfl | ⟨earlier, different⟩ := orders other member
  · exact own reserves openStatus pair listed asked
  · have before : store.FilledAsAsked catalog other pair :=
      fun execution present => asked execution (executions execution present)
    obtain ⟨held, active, asset, covered⟩ :=
      reserving other earlier reserves openStatus pair listed before
    have same := activeReservation?_congr (elsewhere other.id different)
    exact ⟨held, same.trans active, asset, covered⟩

/-- A new order reserves what its quantity may cost. -/
theorem reserveFor_reserves {reserved : Option WalletBalance}
    (exact : Exact (Funds.reserveArithmetic order pair store now))
    (fresh : store.reservationsOf order.id = []) (unfilled : order.filled = .zero)
    (priced : order.limitPrice = none ↔ order.orderType = .market)
    (reserves : order.reserves = true)
    (done : (Funds.reserveFor order pair now).run store = .ok (reserved, after)) :
    after.Reserves order pair := by
  obtain ⟨required, -, -⟩ | ⟨asset, amount, balance, required, -, -, rfl⟩ :=
    Funds.reserveFor_cases done
  · rw [Funds.requirement_reserves required priced] at reserves
    contradiction
  · have only : ((store.withBalance balance).withNewReservation (.opened
        (identifier (store.minted + 1)) order.account asset amount order.id now)).reservationsOf
        order.id = [.opened (identifier (store.minted + 1)) order.account asset amount order.id
          now] := by
      rw [reservationsOf_withNewReservation]
      exact congrArg₂ (· ++ ·) fresh (if_pos rfl)
    refine ⟨_, by rw [activeReservation?_eq, only]; rfl, ?_⟩
    rw [unfilled, value_zero, sub_zero]
    unfold Order.reservationRequirement at required
    unfold Order.reservedAsset Order.unitCost
    unfold Funds.reserveArithmetic at exact
    cases side : order.side with
    | sell =>
        simp only [side, Except.ok.injEq, Option.some.injEq, Prod.mk.injEq] at required
        obtain ⟨rfl, rfl⟩ := required
        exact ⟨rfl, (mul_one _).le⟩
    | buy =>
        cases limited : order.limitPrice with
        | none => simp [side, limited] at required
        | some limit =>
            simp only [side, limited, bind_ok_iff, pure_ok_iff, Option.some.injEq,
              Prod.mk.injEq] at required
            obtain ⟨notional, given, rfl, rfl⟩ := required
            simp only [side, limited, List.cons_append, exact_cons_iff] at exact
            obtain ⟨product, again, value⟩ := exact.1
            obtain rfl := Except.ok.inj (given.symm.trans again)
            exact ⟨rfl, value.ge⟩

theorem creates_reservesOpen {command : OrderCommand}
    (creates : terms.Creates command now order store after) (same : terms.catalog = catalog)
    (exact : Exact (terms.createArithmetic command store now)) (backing : store.Backing)
    (reserving : store.ReservesOpen catalog) : after.ReservesOpen catalog := by
  have orders := creates.places.2.2.2
  cases creates with
  | @created listedPair _ funds _ _ _ create listed absent untaken reserve _ _ =>
      rw [Terms.createArithmetic_eq create listed absent untaken] at exact
      obtain ⟨new, unfilled, -, -, -, priced⟩ := Order.create_ok create
      have fresh : (store.withNewOrder order).reservationsOf order.id = [] :=
        backing.owned order.id fun other member => order?_none absent member
      have backs := Funds.reserveFor_backs fresh priced new reserve
      have executions : funds.executions = store.executions :=
        (Funds.reserveFor_funds reserve).executions
      refine reserving.change order ?_ backs.elsewhere ?_ ?_
      · intro other member
        rw [orders] at member
        exact (mem_placeOrder_iff absent).mp member
      · intro execution member
        change execution ∈ funds.executions
        rw [executions]
        exact member
      · intro reserves _ pair listedNow _
        rw [← same, listed] at listedNow
        obtain rfl := Option.some.inj listedNow
        have reserved := reserveFor_reserves exact fresh unfilled priced reserves reserve
        exact reserved

theorem moves_reservesOpen {eventType : OrderEventType} {transition : Transition}
    (moves : terms.Moves now eventType transition moved store after) (member : order ∈ store.orders)
    (change : order.Change now eventType transition moved) (funded : store.Funded)
    (reserving : store.ReservesOpen catalog) : after.ReservesOpen catalog := by
  have advances := change.advances
  have leads := (Order.Becomes.changed change).leadsTo
  have orders := moves.orders
  cases moves with
  | @moved released funds _ _ _ _ _ close _ _ =>
      have backed := funded.backing.backed order member
      have backs :=
        Terms.releaseIfClosed_backs close funded.identified.reservations.1 backed advances
      have executions : funds.executions = store.executions :=
        (Terms.releaseIfClosed_funds close).executions
      refine reserving.change moved ?_ backs.elsewhere ?_ ?_
      · intro other present
        rw [orders] at present
        exact (mem_replaceOrder present).symm
      · intro execution present
        change execution ∈ funds.executions
        rw [executions]
        exact present
      · intro reserves openStatus pair listed asked
        obtain ⟨-, -, rfl⟩ | ⟨status, closing, -⟩ := Terms.releaseIfClosed_cases close
        · -- The order stays open, so what it reserves is what it has reserved before.
          have before : store.FilledAsAsked catalog order pair := fun execution present which =>
            leads.asks_iff.mp (asked execution present (which.trans leads.id.symm))
          have instrument : moved.instrument = order.instrument := by rw [advances.kept]
          have quantity : moved.quantity = order.quantity := by rw [advances.kept]
          obtain ⟨held, active, asset, covered⟩ := reserving order member
            (advances.reserves ▸ reserves) (OrderStatus.not_terminal_of_canBecome advances.legal)
            pair (instrument ▸ listed) before
          refine ⟨held, ?_, asset.trans (leads.reservedAsset pair).symm, ?_⟩
          · rw [leads.id]
            exact active
          · rw [quantity, change.same_filled.1, leads.unitCost]
            exact covered
        · rw [← OrderStatus.isSome_closingStatus, closing] at openStatus
          contradiction

/-- A fill that the order asks for leaves enough for what is not filled. -/
theorem settleFill_reserves {execution : Execution} {economics : FillEconomics}
    {deltas : AssetTotals} {balances : List WalletBalance}
    (settle : (Funds.settleFill order.account order.id deltas now).run store =
      .ok (balances, after))
    (settleExact : Exact (Funds.settleArithmetic order.account now deltas
      ⟨store.activeReservation? order.id, false, []⟩ store))
    (valueExact : (Operation.mul execution.quantity execution.price).Exact)
    (netExact : Exact (AssetTotals.movementsArithmetic economics.movements []))
    (valued : FillEconomics.ofExecution execution pair = .ok economics)
    (netted : economics.netDeltas = .ok deltas) (solvent : store.Solvent)
    (backed : order.BackedBy (store.reservationsOf order.id))
    (reserves : store.Reserves order pair)
    (cost : max 0 (-FillEconomics.movementOf execution pair
      (execution.quantity.value * execution.price.value) (order.reservedAsset pair)) ≤
      execution.quantity.value * order.unitCost) :
    ∃ rest, after.activeReservation? order.id = some rest ∧
      rest.asset = order.reservedAsset pair ∧ 0 ≤ rest.amount.value ∧
      (order.quantity.value - order.filled.value - execution.quantity.value) * order.unitCost ≤
        rest.amount.value := by
  obtain ⟨held, active, asset, covered⟩ := reserves
  obtain ⟨-, -, -, -, nonneg, -⟩ := backed.of_active active
  obtain ⟨next, middle, settling, left, -⟩ := Funds.settleFill_active settle
  have advance := Funds.settleAll_advance settling
  have nonnegBefore : 0 ≤ heldBy (store.activeReservation? order.id) := by
    rw [active]
    exact nonneg
  have drew := Funds.settleAll_draws_le settleExact solvent nonnegBefore
    (FillEconomics.netDeltas_nodup netted) settling (order.reservedAsset pair)
  rw [economics.netDeltas_exact netExact netted, FillEconomics.sumOf_movements valueExact valued]
    at drew
  have related := advance.drawn
  have nonnegAfter := advance.held_nonneg nonnegBefore
  rw [active] at related drew
  cases reservation : next.reservation with
  | none => rw [reservation] at related; contradiction
  | some rest =>
      rw [reservation] at related drew left nonnegAfter
      obtain ⟨kept⟩ := related
      have restAsset := kept.asset.trans asset
      rw [heldIn_some, heldIn_some, if_pos asset, if_pos restAsset] at drew
      refine ⟨rest, left, restAsset, nonnegAfter, ?_⟩
      rw [sub_mul]
      linarith

/-- What covers the cost of the order less a fill covers what is left of the order then. -/
theorem filled_cost_le {quantity : Decimal} {reported : Option OrderStatus} {fill : FillTransition}
    {amount : ℚ} (advance : order.applyFill quantity reported now = .ok (fill, moved))
    (exact : (Operation.add order.filled quantity).Exact) (nonneg : 0 ≤ amount)
    (covered : (order.quantity.value - order.filled.value - quantity.value) * order.unitCost ≤
      amount) :
    (moved.quantity.value - moved.filled.value) * order.unitCost ≤ amount := by
  obtain ⟨-, sum, status, added, -, -, rfl⟩ := Order.applyFill_ok advance
  have total := exact.add_value added
  simp only [value_min, total]
  obtain partly | whole := le_total (order.filled.value + quantity.value) order.quantity.value
  · rw [min_eq_left partly, ← sub_sub]
    exact covered
  · rw [min_eq_right whole, sub_self, zero_mul]
    exact nonneg

theorem fills_reservesOpen {report : ExecutionReport} {outcome : IngestOutcome}
    (fills : terms.Fills order report now store outcome after) (same : terms.catalog = catalog)
    (valid : report.validate = .ok ()) (exact : Exact (terms.fillArithmetic order report store now))
    (member : order ∈ store.orders) (funded : store.Funded)
    (reserving : store.ReservesOpen catalog) : after.ReservesOpen catalog := by
  obtain ⟨-, executions, -⟩ := fills_tables fills
  obtain ⟨quantity, price⟩ := ExecutionReport.validate_ok valid
  cases fills with
  | @applied reportPair economics deltas balances settled transaction fill moved released closed _ _
      _ _ listed valued netted settle book advance close _ _ _ _ =>
      have becomes : order.Becomes moved := .filled advance
      have leads := becomes.leadsTo
      have advances := becomes.advances
      have issued := funded.identified.reservations
      have backed := funded.backing.backed order member
      have funds := Funds.settleFill_funds settle
      have drawn := Funds.settleFill_backs settle issued.1 backed
      have unique := (funds.issued (issued.mono (Nat.le_succ _))).1
      have backs := Terms.releaseIfClosed_backs close unique drawn.backed advances
      have orders : closed.orders = replaceOrder moved store.orders :=
        (Terms.releaseIfClosed_funds close).orders.trans
          (congrArg (replaceOrder moved) funds.orders)
      simp only [Terms.fillArithmetic, listed, valued, exact_cons_iff, Terms.settlementArithmetic,
        netted, settle, book, exact_append_iff, Terms.advanceArithmetic, advance] at exact
      obtain ⟨valueExact, netExact, settleExact, addExact, -⟩ := exact
      refine reserving.change moved ?_ ?_ ?_ ?_
      · intro other present
        exact (mem_replaceOrder (orders ▸ present)).symm
      · intro id other
        exact (backs.elsewhere id other).trans (drawn.elsewhere id (advances.id ▸ other))
      · intro execution present
        rw [executions]
        exact List.mem_append_left _ present
      · intro reserves openStatus pair listedNow asked
        obtain ⟨-, -, stayed⟩ | ⟨status, closing, -⟩ := Terms.releaseIfClosed_cases close
        · -- All executions are as asked, and so is the new one among them.
          have which : ∀ execution ∈ store.executions ++ [Terms.executionOf store order report],
              execution.orderId = order.id → order.Asks catalog pair execution := by
            intro execution present owner
            rw [← executions] at present
            exact leads.asks_iff.mp (asked execution present (owner.trans leads.id.symm))
          have asksNew := which _ (List.mem_append_right _ (List.mem_singleton_self _)) rfl
          obtain rfl : reportPair = pair := by
            have both := asksNew.listed
            rw [← same] at both
            exact Option.some.inj (listed.symm.trans both)
          have instrument : moved.instrument = order.instrument := by rw [advances.kept]
          have reservesBefore : order.reserves = true := advances.reserves ▸ reserves
          have before := reserving order member reservesBefore
            (OrderStatus.not_terminal_of_canBecome advances.legal) reportPair
            (instrument ▸ listedNow)
            (fun execution present => which execution (List.mem_append_left _ present))
          have cost := asksNew.movement_le reservesBefore (funded.backing.priced order member)
            quantity price
          obtain ⟨rest, active, asset, nonneg, covered⟩ := settleFill_reserves settle settleExact
            valueExact netExact valued netted funded.solvent backed before cost
          refine ⟨rest, ?_, asset.trans (leads.reservedAsset reportPair).symm, ?_⟩
          · rw [leads.id, stayed]
            exact active
          · rw [leads.unitCost]
            exact filled_cost_le advance addExact nonneg covered
        · rw [← OrderStatus.isSome_closingStatus, closing] at openStatus
          contradiction

theorem Effect.reservesOpen {filling : Option ExecutionReport} {operations : List Operation}
    (effect : terms.Effect now store filling operations after) (same : terms.catalog = catalog)
    (exact : Exact operations) (funded : store.Funded) (reserving : store.ReservesOpen catalog) :
    after.ReservesOpen catalog := by
  cases effect with
  | idle => exact reserving
  | created creates => exact creates_reservesOpen creates same exact funded.backing reserving
  | moved member change moves => exact moves_reservesOpen moves member change funded reserving
  | filled valid resolved _ fills =>
      exact fills_reservesOpen fills same valid exact (Terms.resolveOrder?_mem resolved) funded
        reserving

end Store

/-- The request is made under a catalog, if it calls settlement. -/
def Request.Under (catalog : InstrumentCatalog) : Request → Prop
  | .seed .. => True
  | .settle _ terms _ => terms.catalog = catalog

instance (catalog : InstrumentCatalog) : DecidablePred (Request.Under catalog)
  | .seed .. => inferInstanceAs (Decidable True)
  | .settle _ terms _ => inferInstanceAs (Decidable (terms.catalog = catalog))

namespace Store

variable {store : Store} {catalog : InstrumentCatalog}

theorem apply_reservesOpen {request : Request} (under : request.Under catalog)
    (exact : Exact (request.arithmetic store)) (funded : store.Funded)
    (reserving : store.ReservesOpen catalog) : (request.apply store).ReservesOpen catalog := by
  cases request with
  | settle call terms now =>
      exact Effect.reservesOpen (call.effect terms now store) under exact funded reserving
  | seed account asset amount now =>
      obtain ⟨balances, written⟩ := store.seed_tables account asset amount now
      rw [written]
      exact reserving

theorem afterAll_reservesOpen {run : List Request} (nonneg : ∀ request ∈ run, request.Nonnegative)
    (under : ∀ request ∈ run, request.Under catalog) (exact : Exact (store.arithmetic run))
    (funded : store.Funded) (reserving : store.ReservesOpen catalog) :
    (store.afterAll run).ReservesOpen catalog := by
  induction run generalizing store with
  | nil => exact reserving
  | cons request rest ih =>
      rw [arithmetic, exact_append_iff] at exact
      rw [afterAll_cons]
      exact ih (fun other member => nonneg other (List.mem_cons_of_mem request member))
        (fun other member => under other (List.mem_cons_of_mem request member)) exact.2
        (apply_funded (nonneg request List.mem_cons_self) funded)
        (apply_reservesOpen (under request List.mem_cons_self) exact.1 funded reserving)

end Store

end SpotSettlement
