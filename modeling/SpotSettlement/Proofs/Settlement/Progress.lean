import SpotSettlement.Proofs.Settlement.Identities

namespace SpotSettlement

/-! # The progress of orders along a run

Along a run the status of an order agrees with what is filled of it, what is filled never goes back,
and a closed order stays as it is.  As long as no sum rounds, what is filled of an order is what its
executions add up to, as far as its quantity goes.
-/

open Decimal

/-- The order is the one of the execution: its account and exchange are the same, and the exchange
has known the order since. -/
structure Execution.BelongsTo (execution : Execution) (order : Order) : Prop where
  named : order.id = execution.orderId
  account : order.account = execution.account
  known : order.status ≠ .new
  exchange : order.exchange = execution.exchange

theorem Execution.BelongsTo.leadsTo {execution : Execution} {order later : Order}
    (belongs : execution.BelongsTo order) (leads : order.LeadsTo later) :
    execution.BelongsTo later where
  named := leads.id.trans belongs.named
  account := leads.account.trans belongs.account
  known := (leads.known belongs.known).1
  exchange := (leads.known belongs.known).2.trans belongs.exchange

namespace Store

variable {store after : Store} {filling : Option ExecutionReport} {operations : List Operation}
  {order : Order} {run : List Request}

theorem Step.comesTo (step : store.Step filling operations after)
    (unique : (store.orders.map (·.id)).Nodup) (member : order ∈ store.orders) :
    ∃ later ∈ after.orders, order.ComesTo later := by
  obtain same | ⟨_, _, _, created, -, -, placed⟩ | ⟨other, present, moved, becomes, replaced⟩ :=
    step.orders_changes
  · exact ⟨order, same ▸ member, .refl⟩
  · exact ⟨order, placed ▸ mem_placeOrder.mpr (.inr member), .refl⟩
  · by_cases same : order.id = moved.id
    · have which : order = other :=
        List.inj_on_of_nodup_map unique member present (same.trans becomes.advances.id)
      subst which
      exact ⟨moved, replaced ▸ mem_replaceOrder_self member same, .single becomes⟩
    · exact ⟨order, replaced ▸ mem_replaceOrder_of_ne member same, .refl⟩

theorem apply_comesTo (request : Request) (unique : (store.orders.map (·.id)).Nodup)
    (member : order ∈ store.orders) :
    ∃ later ∈ (request.apply store).orders, order.ComesTo later := by
  cases request with
  | seed account asset amount now =>
      obtain ⟨balances, written⟩ := store.seed_tables account asset amount now
      rw [written]
      exact ⟨order, member, .refl⟩
  | settle call terms now => exact (call.step terms now store).comesTo unique member

theorem afterAll_comesTo (run : List Request) (identified : store.Identified)
    (member : order ∈ store.orders) :
    ∃ later ∈ (store.afterAll run).orders, order.ComesTo later := by
  have both : (store.afterAll run).Identified ∧
      ∃ later ∈ (store.afterAll run).orders, order.ComesTo later := by
    refine afterAll_induction (fun reached => reached.Identified ∧
      ∃ later ∈ reached.orders, order.ComesTo later) ⟨identified, order, member, .refl⟩ ?_
    rintro request - reached ⟨identified, present, member, comes⟩
    obtain ⟨later, laterMember, further⟩ := apply_comesTo request identified.orders member
    exact ⟨afterAll_identified identified [request], later, laterMember, comes.trans further⟩
  exact both.2

theorem Step.leadsTo (step : store.Step filling operations after)
    (unique : (store.orders.map (·.id)).Nodup) (member : order ∈ store.orders) :
    ∃ later ∈ after.orders, order.LeadsTo later := by
  obtain ⟨later, present, comes⟩ := step.comesTo unique member
  exact ⟨later, present, comes.leadsTo⟩

theorem afterAll_leadsTo (run : List Request) (identified : store.Identified)
    (member : order ∈ store.orders) :
    ∃ later ∈ (store.afterAll run).orders, order.LeadsTo later := by
  obtain ⟨later, present, comes⟩ := afterAll_comesTo run identified member
  exact ⟨later, present, comes.leadsTo⟩

/-- The status of an order agrees with what is filled of it, and identifiers tell orders apart.
However the run goes on, no less of an order is filled later, and nothing of a closed order has
changed. -/
theorem orders_stay_consistent (run : List Request) :
    (∀ order ∈ (reached run).orders,
      (0 ≤ order.filled.value ∧ order.filled.value ≤ order.quantity.value) ∧
        (order.status = .filled ↔ order.filled.value = order.quantity.value) ∧
        (order.status = .partiallyFilled →
          0 < order.filled.value ∧ order.filled.value < order.quantity.value) ∧
        (order.status = .new → order.filled.value = 0)) ∧
    ((reached run).orders.map (·.id)).Nodup ∧
    ∀ order ∈ (reached run).orders, ∀ later : List Request,
      ∃ moved ∈ (reached (run ++ later)).orders, moved.id = order.id ∧
        order.filled.value ≤ moved.filled.value ∧
        (order.status = .filled ∨ order.status = .canceled ∨ order.status = .rejected →
          moved = order) := by
  have identified := afterAll_identified empty_identified run
  refine ⟨?_, identified.orders, ?_⟩
  · intro order member
    have consistent : order.Consistent :=
      reached_forall_orders Order.create_consistent Order.Becomes.consistent run order member
    refine ⟨⟨consistent.nonneg, consistent.within⟩, consistent.complete, ?_, consistent.unfilled⟩
    intro partly
    refine ⟨consistent.partly partly, lt_of_le_of_ne consistent.within ?_⟩
    intro complete
    rw [consistent.complete.mpr complete] at partly
    contradiction
  · intro order member later
    obtain ⟨moved, present, leads⟩ := afterAll_leadsTo later identified member
    refine ⟨moved, ?_, leads.id, leads.filled_le, ?_⟩
    · rw [reached, afterAll_append]
      exact present
    · rintro (closed | closed | closed) <;> exact leads.closed (by rw [closed]; rfl)

theorem sample_order_stays_canceled :
    ∃ order ∈ (reached Sample.canceled).orders, order.status = .canceled ∧
      0 < order.filled.value ∧ order.filled.value ≠ order.quantity.value ∧
      order ∈ (reached (Sample.canceled ++ Sample.traded)).orders := by
  have closed : ∃ order ∈ (reached Sample.canceled).orders, order.status = .canceled ∧
      0 < order.filled.value := by
    decide +kernel
  obtain ⟨order, member, canceled, positive⟩ := closed
  have consistent := (orders_stay_consistent Sample.canceled).1 order member
  obtain ⟨moved, present, -, -, stays⟩ :=
    (orders_stay_consistent Sample.canceled).2.2 order member Sample.traded
  have same := stays (.inr (.inl canceled))
  subst same
  refine ⟨moved, member, canceled, positive, ?_, present⟩
  intro complete
  have filled := canceled.symm.trans (consistent.2.1.mpr complete)
  exact absurd filled (by decide)

/-- Every execution belongs to an order. -/
def Owned (store : Store) : Prop :=
  ∀ execution ∈ store.executions, ∃ order ∈ store.orders, execution.BelongsTo order

/-- What the executions of an order add up to. -/
def executed (store : Store) (orderId : String) : ℚ :=
  ((store.executionsOf orderId).map (·.quantity.value)).sum

theorem executed_append {execution : Execution}
    (executions : after.executions = store.executions ++ [execution]) (orderId : String) :
    after.executed orderId = store.executed orderId +
      if execution.orderId = orderId then execution.quantity.value else 0 := by
  simp only [executed, executionsOf, executions, List.filter_append, List.map_append,
    List.sum_append]
  by_cases same : execution.orderId = orderId <;> simp [same]

theorem Owned.executed_eq_zero {orderId : String} (owned : store.Owned)
    (absent : store.order? orderId = none) : store.executed orderId = 0 := by
  have none : store.executionsOf orderId = [] := by
    rw [executionsOf, List.filter_eq_nil_iff]
    intro execution member same
    obtain ⟨order, present, belongs⟩ := owned execution member
    exact order?_none absent present (belongs.named.trans (beq_iff_eq.mp same))
  rw [executed, none]
  rfl

theorem Step.owned (step : store.Step filling operations after)
    (unique : (store.orders.map (·.id)).Nodup) (owned : store.Owned) : after.Owned := by
  have earlier : ∀ execution ∈ store.executions,
      ∃ order ∈ after.orders, execution.BelongsTo order := by
    intro execution member
    obtain ⟨order, present, belongs⟩ := owned execution member
    obtain ⟨later, stays, leads⟩ := step.leadsTo unique present
    exact ⟨later, stays, belongs.leadsTo leads⟩
  obtain ⟨same, -⟩ | ⟨_, _, _, _, _, -, resolved, -, fills⟩ := step.executions_cases
  · intro execution member
    exact earlier execution (same ▸ member)
  · obtain ⟨-, executions, -⟩ := fills_tables fills
    obtain ⟨fill, moved, advance, orders, -⟩ := fills_orders fills
    have advances := Order.applyFill_advances advance
    intro execution member
    rw [executions] at member
    obtain old | new := List.mem_append.mp member
    · exact earlier execution old
    · rw [List.mem_singleton.mp new]
      have writes := mem_replaceOrder_self (Terms.resolveOrder?_mem resolved) advances.id.symm
      refine ⟨moved, orders ▸ writes, advances.id, advances.account,
        OrderStatus.ne_new_of_canBecome advances.legal, ?_⟩
      obtain ⟨-, sum, next, -, -, -, rfl⟩ := Order.applyFill_ok advance
      exact (resolveOrder?_goesBy resolved).1

theorem apply_owned (request : Request) (unique : (store.orders.map (·.id)).Nodup)
    (owned : store.Owned) : (request.apply store).Owned := by
  cases request with
  | seed account asset amount now =>
      obtain ⟨balances, written⟩ := store.seed_tables account asset amount now
      rw [written]
      exact owned
  | settle call terms now => exact (call.step terms now store).owned unique owned

theorem reached_owned (run : List Request) : (reached run).Owned := by
  have both : (reached run).Identified ∧ (reached run).Owned := by
    refine afterAll_induction (fun store => store.Identified ∧ store.Owned)
      ⟨empty_identified, List.forall_mem_nil _⟩ ?_
    rintro request - store ⟨identified, owned⟩
    exact ⟨afterAll_identified identified [request], apply_owned request identified.orders owned⟩
  exact both.2

/-- What is filled of every order is what its executions add up to, as far as its quantity goes. -/
def Tallied (store : Store) : Prop :=
  ∀ order ∈ store.orders, order.filled.value = min order.quantity.value (store.executed order.id)

theorem executed_congr (same : after.executions = store.executions) (orderId : String) :
    after.executed orderId = store.executed orderId := by
  rw [executed, executionsOf, same]
  rfl

theorem Tallied.place {freshId : String} {command : OrderCommand} {now : Instant}
    (tallied : store.Tallied) (owned : store.Owned)
    (create : Order.create freshId command now = .ok order) (absent : store.order? order.id = none)
    (orders : after.orders = placeOrder order store.orders)
    (executions : after.executions = store.executions) : after.Tallied := by
  intro other member
  rw [orders] at member
  rw [executed_congr executions]
  obtain rfl | earlier := mem_placeOrder.mp member
  · -- No execution can belong to an order that was not there.
    obtain ⟨-, unfilled, -, -, positive, -⟩ := Order.create_ok create
    rw [owned.executed_eq_zero absent, unfilled, value_zero, min_eq_right positive.le]
  · exact tallied other earlier

theorem Tallied.replace {moved : Order} {now : Instant} {eventType : OrderEventType}
    {transition : Transition} (tallied : store.Tallied) (member : order ∈ store.orders)
    (change : order.Change now eventType transition moved)
    (orders : after.orders = replaceOrder moved store.orders)
    (executions : after.executions = store.executions) : after.Tallied := by
  intro other present
  rw [orders] at present
  rw [executed_congr executions]
  obtain ⟨earlier, -⟩ | rfl := mem_replaceOrder present
  · exact tallied other earlier
  · have quantity : other.quantity = order.quantity := by rw [change.advances.kept]
    rw [change.same_filled.1, change.advances.id, quantity]
    exact tallied order member

/-- The addition that advances an order is one that a fill does. -/
theorem fills_adds {terms : Terms} {report : ExecutionReport} {now : Instant}
    {outcome : IngestOutcome} (fills : terms.Fills order report now store outcome after) :
    .add order.filled report.quantity ∈ terms.fillArithmetic order report store now := by
  cases fills with
  | applied listed valued netted settle book advance close _ _ _ _ =>
      simp [Terms.fillArithmetic, listed, valued, Terms.settlementArithmetic, netted, settle, book,
        Terms.advanceArithmetic]

/-- Filling up to the quantity step by step is filling up to it at once. -/
theorem min_min_add {quantity sum added : ℚ} (nonneg : 0 ≤ added) :
    min (min quantity sum + added) quantity = min quantity (sum + added) := by
  obtain capped | short := le_total quantity sum
  · rw [min_eq_left capped, min_eq_right (by linarith), min_eq_left (by linarith)]
  · rw [min_eq_right short, min_comm]

theorem fills_tallied {terms : Terms} {report : ExecutionReport} {now : Instant}
    {outcome : IngestOutcome} (fills : terms.Fills order report now store outcome after)
    (exact : Exact ((terms.fillArithmetic order report store now).filter (·.isAddition)))
    (member : order ∈ store.orders) (tallied : store.Tallied) : after.Tallied := by
  obtain ⟨-, executions, -⟩ := fills_tables fills
  obtain ⟨fill, moved, advance, orders, -⟩ := fills_orders fills
  have adds := exact _ (List.mem_filter.mpr ⟨fills_adds fills, rfl⟩)
  obtain ⟨positive, sum, next, added, -, -, rfl⟩ := Order.applyFill_ok advance
  intro other present
  rw [orders] at present
  rw [executed_append executions]
  obtain ⟨earlier, different⟩ | rfl := mem_replaceOrder present
  · have elsewhere : (Terms.executionOf store order report).orderId ≠ other.id :=
      fun same => different same.symm
    rw [if_neg elsewhere, add_zero]
    exact tallied other earlier
  · have here : (Terms.executionOf store order report).orderId = order.id := rfl
    have quantity : (Terms.executionOf store order report).quantity = report.quantity := rfl
    rw [if_pos here, value_min, adds.add_value added, tallied order member, quantity]
    exact min_min_add positive.le

theorem Step.tallied (step : store.Step filling operations after)
    (exact : Exact (operations.filter (·.isAddition))) (owned : store.Owned)
    (tallied : store.Tallied) : after.Tallied := by
  cases step with
  | idle => exact tallied
  | created create absent _ reserve _ _ =>
      have funds := Funds.reserveFor_funds reserve
      exact tallied.place owned create absent funds.orders funds.executions
  | moved _ member change close _ _ =>
      have funds := Terms.releaseIfClosed_funds close
      exact tallied.replace member change funds.orders funds.executions
  | filled resolved _ fills =>
      exact fills_tallied fills exact (Terms.resolveOrder?_mem resolved) tallied

theorem apply_tallied {request : Request}
    (exact : Exact ((request.arithmetic store).filter (·.isAddition))) (owned : store.Owned)
    (tallied : store.Tallied) : (request.apply store).Tallied := by
  cases request with
  | seed account asset amount now =>
      obtain ⟨balances, written⟩ := store.seed_tables account asset amount now
      rw [written]
      exact tallied
  | settle call terms now => exact (call.step terms now store).tallied exact owned tallied

theorem afterAll_tallied (exact : Exact ((store.arithmetic run).filter (·.isAddition)))
    (identified : store.Identified) (owned : store.Owned) (tallied : store.Tallied) :
    (store.afterAll run).Tallied := by
  induction run generalizing store with
  | nil => exact tallied
  | cons request rest ih =>
      rw [arithmetic, List.filter_append, exact_append_iff] at exact
      rw [afterAll_cons]
      exact ih exact.2 (afterAll_identified identified [request])
        (apply_owned request identified.orders owned) (apply_tallied exact.1 owned tallied)

/-- Every execution belongs to an order, to the account of the order, and to no other order.  If no
addition of the run rounds, what is filled of an order is what its executions add up to, as far as
its quantity goes. -/
theorem progress_is_what_executions_say (run : List Request) :
    (∀ execution ∈ (reached run).executions, ∃ order,
      (reached run).orders.filter (·.id == execution.orderId) = [order] ∧
        order.account = execution.account) ∧
    (Exact ((({} : Store).arithmetic run).filter (·.isAddition)) →
      ∀ order ∈ (reached run).orders, order.filled.value = min order.quantity.value
        (((reached run).executionsOf order.id).map (·.quantity.value)).sum) := by
  have identified := afterAll_identified empty_identified run
  constructor
  · intro execution member
    obtain ⟨order, present, belongs⟩ := reached_owned run execution member
    exact ⟨order, belongs.named ▸ filter_id_eq identified.orders present, belongs.account⟩
  · intro exact
    exact afterAll_tallied exact empty_identified (List.forall_mem_nil _) (List.forall_mem_nil _)

theorem sample_progress_is_what_executions_say :
    Exact ((({} : Store).arithmetic Sample.canceled).filter (·.isAddition)) ∧
    ∃ order ∈ (reached Sample.canceled).orders, order.filled.value = 1 ∧
      order.filled.value = min order.quantity.value
        (((reached Sample.canceled).executionsOf order.id).map (·.quantity.value)).sum := by
  have exact : Exact ((({} : Store).arithmetic Sample.canceled).filter (·.isAddition)) := by
    decide +kernel
  have filled : ∃ order ∈ (reached Sample.canceled).orders, order.filled.value = 1 := by
    decide +kernel
  obtain ⟨order, member, one⟩ := filled
  exact ⟨exact, order, member, one,
    (progress_is_what_executions_say Sample.canceled).2 exact order member⟩

end Store

end SpotSettlement
