import SpotSettlement.Proofs.Settlement.Progress

namespace SpotSettlement

/-! # Executions and the instrument and side of their order

An execution should be of the instrument that its order trades, and on the same side.  But a report
finds its order by names alone, and what is recorded and settled is the instrument and the side that
the report tells of.  The executions of a run match their orders if and only if no report of another
instrument or side was applied.
-/

open Decimal

/-- The order is for the instrument, on the side. -/
def Order.Trades (order : Order) (instrument : String) (side : Side) : Prop :=
  AssetPair.canonical instrument = AssetPair.canonical order.instrument ∧ side = order.side

instance (order : Order) (instrument : String) (side : Side) :
    Decidable (order.Trades instrument side) :=
  inferInstanceAs (Decidable (_ ∧ _))

theorem Order.LeadsTo.trades_iff {order later : Order} {instrument : String} {side : Side}
    (leads : order.LeadsTo later) : later.Trades instrument side ↔ order.Trades instrument side := by
  rw [leads.kept]
  rfl

/-- A request that has a fill applied to an order that is not for the instrument, or not on the
side, that the fill is reported with. -/
def Request.Strays (request : Request) (store : Store) : Prop :=
  match request with
  | .settle (.fill report) terms now =>
    ∃ order, store.resolveOrder? report.exchange report.exchangeOrderId report.clientOrderId =
        some order ∧
      ¬order.Trades report.instrument report.side ∧
      ∃ executionId orderId status, (store.perform (terms.processFill report now)).1 =
        .ok (.inserted executionId orderId status)
  | _ => False

namespace Sample

/-- The order is acknowledged, and the account has ether as well. -/
def stocked : List Request := acknowledged ++ [.seed "a-1" "ETH" (units 5) start]

/-- The report of a sale of one ether, under the number of the purchase. -/
def sale : ExecutionReport :=
  { trade none with
    instrument := "ETHUSDT"
    side := .sell
    exchangeOrderId := some "x-1"
    clientOrderId := none }

def sold : List Request := stocked ++ [.settle (.fill sale) terms start]

end Sample

namespace Store

variable {store after : Store} {filling : Option ExecutionReport} {operations : List Operation}
  {execution : Execution} {order : Order} {terms : Terms} {report : ExecutionReport} {now : Instant}

/-- The order that the execution names is for its instrument, on its side. -/
def Explains (store : Store) (execution : Execution) : Prop :=
  ∀ order ∈ store.orders, order.id = execution.orderId →
    order.Trades execution.instrument execution.side

theorem explains_iff (unique : (store.orders.map (·.id)).Nodup) (member : order ∈ store.orders)
    (named : order.id = execution.orderId) :
    store.Explains execution ↔ order.Trades execution.instrument execution.side := by
  constructor
  · intro explains
    exact explains order member named
  · intro trades other present same
    have which : other = order :=
      List.inj_on_of_nodup_map unique present member (same.trans named.symm)
    rw [which]
    exact trades

/-- An execution stays with its order, and the order keeps its instrument and side. -/
theorem Step.explains_iff (step : store.Step filling operations after)
    (unique : (store.orders.map (·.id)).Nodup)
    (owned : ∃ order ∈ store.orders, execution.BelongsTo order) :
    after.Explains execution ↔ store.Explains execution := by
  obtain ⟨order, member, belongs⟩ := owned
  obtain ⟨later, stays, leads⟩ := step.leadsTo unique member
  have stillNamed := leads.id.trans belongs.named
  rw [Store.explains_iff unique member belongs.named,
    Store.explains_iff (step.orders_nodup unique) stays stillNamed, leads.trades_iff]

/-- Every execution is of the instrument that its order trades, and on the same side. -/
def Attributed (store : Store) : Prop := ∀ execution ∈ store.executions, store.Explains execution

theorem Step.attributed_iff (step : store.Step none operations after)
    (unique : (store.orders.map (·.id)).Nodup) (owned : store.Owned) :
    after.Attributed ↔ store.Attributed := by
  obtain ⟨same, -⟩ | ⟨_, _, _, _, _, other, -⟩ := step.executions_cases
  · unfold Attributed
    rw [same]
    exact forall₂_congr fun execution member => step.explains_iff unique (owned execution member)
  · contradiction

theorem fills_attributed_iff {outcome : IngestOutcome}
    (resolved : store.resolveOrder? report.exchange report.exchangeOrderId report.clientOrderId =
      some order)
    (fresh : store.hasExecution (report.exchange, report.instrument, report.tradeId) = false)
    (fills : terms.Fills order report now store outcome after)
    (unique : (store.orders.map (·.id)).Nodup) (owned : store.Owned) :
    after.Attributed ↔ store.Attributed ∧ order.Trades report.instrument report.side := by
  have step := Step.filled resolved fresh fills
  obtain ⟨-, executions, -⟩ := fills_tables fills
  obtain ⟨later, stays, leads⟩ := step.leadsTo unique (Terms.resolveOrder?_mem resolved)
  have recorded : after.Explains (Terms.executionOf store order report) ↔
      order.Trades report.instrument report.side :=
    (Store.explains_iff (step.orders_nodup unique) stays leads.id).trans leads.trades_iff
  have earlier : (∀ execution ∈ store.executions, after.Explains execution) ↔ store.Attributed :=
    forall₂_congr fun execution member => step.explains_iff unique (owned execution member)
  rw [Attributed, executions, List.forall_mem_append, List.forall_mem_singleton, earlier, recorded]

theorem processFill_attributed_iff (unique : (store.orders.map (·.id)).Nodup)
    (owned : store.Owned) : (store.perform (terms.processFill report now)).2.Attributed ↔
      store.Attributed ∧ ¬(Request.settle (.fill report) terms now).Strays store := by
  cases outcome : (store.perform (terms.processFill report now)).1 with
  | error failure => simp [Request.Strays, outcome, perform_error outcome]
  | ok value =>
      obtain ⟨-, -, ⟨-, rfl, same⟩ | ⟨order, resolved, ⟨-, rfl, same⟩ | ⟨fresh, fills⟩⟩⟩ :=
        Terms.processFill_cases (perform_ok outcome)
      · simp [Request.Strays, outcome, same]
      · simp [Request.Strays, outcome, same]
      · obtain ⟨fill, moved, -, -, rfl⟩ := fills_orders fills
        rw [fills_attributed_iff resolved fresh fills unique owned]
        simp [Request.Strays, outcome, resolved]

/-- A request keeps the executions in line with their orders unless it strays, and nothing brings
one that is out of line back. -/
theorem apply_attributed_iff (request : Request) (unique : (store.orders.map (·.id)).Nodup)
    (owned : store.Owned) :
    (request.apply store).Attributed ↔ store.Attributed ∧ ¬request.Strays store := by
  cases request with
  | seed account asset amount now =>
      obtain ⟨balances, written⟩ := store.seed_tables account asset amount now
      rw [written]
      exact (and_iff_left not_false).symm
  | settle call terms now =>
      have step := call.step terms now store
      cases call with
      | fill report => exact processFill_attributed_iff unique owned
      | create | acknowledge | cancel | reject | status =>
          exact (Step.attributed_iff step unique owned).trans (and_iff_left not_false).symm

theorem afterAll_attributed_iff (run : List Request) (identified : store.Identified)
    (owned : store.Owned) :
    (store.afterAll run).Attributed ↔ store.Attributed ∧ store.Avoids Request.Strays run := by
  induction run generalizing store with
  | nil => exact (and_iff_left trivial).symm
  | cons request rest ih =>
      have next : (request.apply store).Identified := afterAll_identified identified [request]
      rw [afterAll_cons, ih next (apply_owned request identified.orders owned),
        apply_attributed_iff request identified.orders owned, and_assoc]
      rfl

/-- Every execution is on the exchange of the one order that it names.  The executions of a run are
of the instruments of their orders, and on their sides, if and only if no fill that the run applies
was reported with another instrument or side. -/
theorem executions_match_unless_fills_stray (run : List Request) :
    (∀ execution ∈ (reached run).executions, ∃ order,
      (reached run).orders.filter (·.id == execution.orderId) = [order] ∧
        order.exchange = execution.exchange) ∧
    ((∀ execution ∈ (reached run).executions, ∀ order ∈ (reached run).orders,
        order.id = execution.orderId → order.Trades execution.instrument execution.side) ↔
      ({} : Store).Avoids Request.Strays run) := by
  have identified := afterAll_identified empty_identified run
  constructor
  · intro execution member
    obtain ⟨order, present, belongs⟩ := reached_owned run execution member
    exact ⟨order, belongs.named ▸ filter_id_eq identified.orders present, belongs.exchange⟩
  · have start : ({} : Store).Attributed := List.forall_mem_nil _
    exact (afterAll_attributed_iff run empty_identified (List.forall_mem_nil _)).trans
      (and_iff_right start)

theorem sample_execution_matches :
    ∃ execution ∈ (reached Sample.traded).executions,
      execution.instrument = "BTCUSDT" ∧ execution.side = .buy ∧
      (∃ order, (reached Sample.traded).orders.filter (·.id == execution.orderId) = [order] ∧
        order.exchange = execution.exchange) ∧
      ({} : Store).Avoids Request.Strays Sample.traded := by
  have recorded : ∃ execution ∈ (reached Sample.traded).executions,
      execution.instrument = "BTCUSDT" ∧ execution.side = .buy := by
    decide +kernel
  have matching : ∀ execution ∈ (reached Sample.traded).executions,
      ∀ order ∈ (reached Sample.traded).orders, order.id = execution.orderId →
        order.Trades execution.instrument execution.side := by
    decide +kernel
  obtain ⟨execution, member, instrument, side⟩ := recorded
  exact ⟨execution, member, instrument, side,
    (executions_match_unless_fills_stray Sample.traded).1 execution member,
    (executions_match_unless_fills_stray Sample.traded).2.mp matching⟩

/-- A sale of ether under a number that the exchange gave to the purchase of bitcoin as well is
applied to the purchase, and takes the ether out of the account. -/
theorem sample_sale_recorded_on_purchase :
    ((reached Sample.stocked).perform (Sample.terms.processFill Sample.sale Sample.start)).1 =
      .ok (.inserted "00000000-0000-4000-8000-000000000009" "o-1" .partiallyFilled) ∧
    (∃ execution ∈ (reached Sample.sold).executions, ∃ order ∈ (reached Sample.sold).orders,
      order.id = execution.orderId ∧ order.instrument = "BTCUSDT" ∧ order.side = .buy ∧
        execution.instrument = "ETHUSDT" ∧ execution.side = .sell) ∧
    ((reached Sample.sold).balanceOf "a-1" "ETH" Sample.start).available.value = 4 := by
  decide +kernel

end Store

end SpotSettlement
