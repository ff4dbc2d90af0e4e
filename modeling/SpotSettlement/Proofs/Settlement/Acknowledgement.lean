import SpotSettlement.Proofs.Settlement.Identities

namespace SpotSettlement

/-! # Fills and the acknowledgement of their order

A fill should follow the acknowledgement of its order.  It does, unless the report that tells of the
fill also names a status that a new order may get: then a fill that does not complete the order is
applied to a new order too, and overtakes the acknowledgement.  As long as no fill does this, only
acknowledged orders are filled.
-/

open Decimal

/-- A report whose fill a new order accepts: it does not complete the order, and it names a status
that a new order may get. -/
def ExecutionReport.Overtakes (report : ExecutionReport) (order : Order) : Prop :=
  order.status = .new ∧ report.quantity.value < order.quantity.value ∧
    (report.reportedStatus = some .acknowledged ∨ report.reportedStatus = some .canceled ∨
      report.reportedStatus = some .rejected)

instance (report : ExecutionReport) (order : Order) : Decidable (report.Overtakes order) :=
  inferInstanceAs (Decidable (_ ∧ _ < _ ∧ _))

theorem OrderStatus.canBecome_new {status : OrderStatus}
    (legal : OrderStatus.canBecome .new status = true) :
    status = .acknowledged ∨ status = .canceled ∨ status = .rejected := by
  revert legal
  cases status <;> decide

theorem Decimal.zero_add_ok (d : Decimal) : zero.add d = .ok d := by
  simp [add, zero]

namespace Order

variable {order moved : Order} {quantity : Decimal} {reported : Option OrderStatus} {now : Instant}

/-- A fill that a new order accepts is positive, does not complete the order, and gives it the
status that the report names, one that a new order may get. -/
theorem applyFill_new {fill : FillTransition} (new : order.status = .new)
    (unfilled : order.filled = .zero)
    (filled : order.applyFill quantity reported now = .ok (fill, moved)) :
    0 < quantity.value ∧ quantity.value < order.quantity.value ∧
      moved.filled.value = quantity.value ∧ reported = some moved.status ∧
      (moved.status = .acknowledged ∨ moved.status = .canceled ∨ moved.status = .rejected) := by
  obtain ⟨positive, sum, next, added, follows, -, rfl⟩ := applyFill_ok filled
  rw [unfilled, Decimal.zero_add_ok] at added
  cases added
  obtain ⟨-, -, -, legal, choice⟩ := OrderStatus.next_ok follows
  rw [new] at legal
  have early := OrderStatus.canBecome_new legal
  -- A status taken from the quantities is one that a new order cannot get.
  obtain implied | ⟨incomplete, named, -⟩ := choice
  · obtain rfl | rfl := OrderStatus.ofQuantities_some implied <;> simp at early
  · rw [Ne, OrderStatus.ofQuantities_eq_filled, value_min] at incomplete
    have partly : quantity.value < order.quantity.value := by
      by_contra enough
      exact incomplete (min_eq_right (not_lt.mp enough))
    refine ⟨positive, partly, ?_, named, early⟩
    rw [value_min]
    exact min_eq_left partly.le

/-- A new order accepts a fill if and only if the fill is positive but does not complete it, and the
report names a status that a new order may get. -/
theorem applyFill_new_iff (new : order.status = .new) (unfilled : order.filled = .zero) :
    (∃ result, order.applyFill quantity reported now = .ok result) ↔
      0 < quantity.value ∧ quantity.value < order.quantity.value ∧
        (reported = some .acknowledged ∨ reported = some .canceled ∨ reported = some .rejected) := by
  constructor
  · rintro ⟨⟨fill, moved⟩, filled⟩
    obtain ⟨positive, partly, -, named, early⟩ := applyFill_new new unfilled filled
    refine ⟨positive, partly, ?_⟩
    simpa only [named, Option.some.injEq] using early
  · rintro ⟨positive, partly, early⟩
    have added : order.filled.add quantity = .ok quantity := by
      rw [unfilled]
      exact Decimal.zero_add_ok quantity
    have uncapped : quantity.min order.quantity = quantity :=
      if_neg (not_lt_iff_value.mpr partly.le)
    have implied := OrderStatus.ofQuantities_partly positive partly
    have growing : ¬quantity < order.filled := by
      rw [not_lt_iff_value, unfilled, value_zero]
      exact positive.le
    have within : ¬(order.quantity < quantity ∨ quantity.isNegative = true) := by
      rw [not_or, not_lt_iff_value, isNegative_iff_value, not_lt]
      exact ⟨partly.le, positive.le⟩
    have follows : ∃ next, order.status.next reported order.filled quantity order.quantity =
        .ok next := by
      unfold OrderStatus.next
      rw [if_neg growing, if_neg within, implied, new]
      obtain rfl | rfl | rfl := early <;> exact ⟨_, rfl⟩
    obtain ⟨next, follows⟩ := follows
    have accepted : requirePositive "fill_quantity" quantity = .ok () :=
      if_pos (isPositive_iff_value.mpr positive)
    refine ⟨_, bind_ok_iff.mpr ⟨(), lift_ok_iff.mpr accepted, bind_ok_iff.mpr ⟨quantity,
      lift_ok_iff.mpr added, bind_ok_iff.mpr ⟨next, lift_ok_iff.mpr ?_, rfl⟩⟩⟩⟩
    rw [uncapped]
    exact follows

/-- Nothing of the order was filled before its acknowledgement, and no order but an acknowledged one
was filled. -/
structure FilledInOrder (order : Order) : Prop where
  early : order.status = .new ∨ order.status = .acknowledged ∨ order.status = .rejected →
    order.filled.value = 0
  unnamed : order.exchangeOrderId = none → order.filled.value = 0 ∧
    (order.status = .new ∨ order.status = .canceled ∨ order.status = .rejected)

/-- A change of status alone keeps this, unless it acknowledges the order. -/
theorem FilledInOrder.of_status (inOrder : order.FilledInOrder)
    (legal : order.status.canBecome moved.status = true) (other : moved.status ≠ .acknowledged)
    (filled : moved.filled = order.filled) (name : moved.exchangeOrderId = order.exchangeOrderId) :
    moved.FilledInOrder := by
  obtain ⟨early, unnamed⟩ := inOrder
  constructor <;> rw [filled]
  · intro stillEarly
    apply early
    revert legal other stillEarly
    cases order.status <;> cases moved.status <;> decide
  · rw [name]
    intro none
    obtain ⟨unfilled, start⟩ := unnamed none
    refine ⟨unfilled, ?_⟩
    revert legal other start
    cases order.status <;> cases moved.status <;> decide

theorem Change.filledInOrder {eventType : OrderEventType} {transition : Transition}
    (change : order.Change now eventType transition moved) (inOrder : order.FilledInOrder) :
    moved.FilledInOrder := by
  have legal := change.advances.legal
  cases change with
  | acknowledged given =>
      obtain ⟨new, -, rfl⟩ := acknowledge_ok given
      exact ⟨fun _ => inOrder.early (.inl new), nofun⟩
  | canceled given =>
      obtain ⟨-, -, rfl⟩ := close_ok (cancel_ok given).2
      exact inOrder.of_status legal nofun rfl rfl
  | rejected given =>
      obtain ⟨-, -, rfl⟩ := close_ok given
      exact inOrder.of_status legal nofun rfl rfl
  | reported other given =>
      obtain ⟨next, follows, -, rfl⟩ := applyReportedStatus_ok given
      refine inOrder.of_status legal ?_ rfl rfl
      rintro rfl
      obtain implied | ⟨-, named, -⟩ := (OrderStatus.next_ok follows).2.2.2.2
      · obtain impossible | impossible := OrderStatus.ofQuantities_some implied <;>
          exact absurd impossible (by decide)
      · exact other (Option.some.inj named)

/-- A fill of an order that is not new finds it acknowledged. -/
theorem applyFill_filledInOrder {fill : FillTransition}
    (filled : order.applyFill quantity reported now = .ok (fill, moved))
    (inOrder : order.FilledInOrder) (known : order.status ≠ .new) : moved.FilledInOrder := by
  have legal := (applyFill_advances filled).legal
  have name := ((applyFill_advances filled).named known).2.1
  constructor
  · intro early
    exfalso
    revert legal known early
    cases order.status <;> cases moved.status <;> decide
  · intro none
    exfalso
    obtain ⟨-, start⟩ := inOrder.unnamed (name.symm.trans none)
    revert legal known start
    cases order.status <;> cases moved.status <;> decide

end Order

/-- A request that reports a fill which would overtake the acknowledgement of its order. -/
def Request.Overtakes (request : Request) (store : Store) : Prop :=
  match request with
  | .settle (.fill report) _ _ =>
    ∃ order ∈ store.resolveOrder? report.exchange report.exchangeOrderId report.clientOrderId,
      report.Overtakes order
  | _ => False

instance (request : Request) (store : Store) : Decidable (request.Overtakes store) :=
  match request with
  | .seed .. => inferInstanceAs (Decidable False)
  | .settle (.fill report) _ _ =>
    inferInstanceAs (Decidable (∃ order ∈ store.resolveOrder? report.exchange
      report.exchangeOrderId report.clientOrderId, report.Overtakes order))
  | .settle (.create _) _ _ | .settle (.acknowledge ..) _ _ | .settle (.cancel ..) _ _
  | .settle (.reject ..) _ _ | .settle (.status _) _ _ => inferInstanceAs (Decidable False)

namespace Store

variable {store after : Store} {filling : Option ExecutionReport} {operations : List Operation}

/-- Of a new order nothing is filled. -/
def NewUnfilled (store : Store) : Prop :=
  ∀ order ∈ store.orders, order.status = .new → order.filled = .zero

theorem apply_newUnfilled (unfilled : store.NewUnfilled) (request : Request) :
    (request.apply store).NewUnfilled := by
  refine apply_forall_orders ?_ ?_ request unfilled
  · intro _ _ _ order create _
    exact (Order.create_ok create).2.1
  · intro order moved becomes _ new
    exact absurd new (OrderStatus.ne_new_of_canBecome becomes.advances.legal)

theorem empty_newUnfilled : ({} : Store).NewUnfilled :=
  fun _ member => absurd member List.not_mem_nil

theorem reached_newUnfilled (run : List Request) : (reached run).NewUnfilled :=
  afterAll_induction NewUnfilled empty_newUnfilled fun request _ _ unfilled =>
    apply_newUnfilled unfilled request

/-- A step that is not a fill keeps what is said of orders filled in order. -/
theorem Step.filledInOrder (step : store.Step none operations after)
    (inOrder : ∀ order ∈ store.orders, order.FilledInOrder) :
    ∀ order ∈ after.orders, order.FilledInOrder := by
  cases step with
  | idle => exact inOrder
  | created create _ _ reserve _ _ =>
      intro order member
      have orders := (Funds.reserveFor_funds reserve).orders
      obtain rfl | earlier := mem_placeOrder.mp (orders ▸ member)
      · obtain ⟨new, unfilled, -⟩ := Order.create_ok create
        have zero : order.filled.value = 0 := by
          rw [unfilled]
          exact value_zero
        exact ⟨fun _ => zero, fun _ => ⟨zero, .inl new⟩⟩
      · exact inOrder order earlier
  | moved _ present change close _ _ =>
      intro order member
      have orders := (Terms.releaseIfClosed_funds close).orders
      obtain ⟨earlier, -⟩ | rfl := mem_replaceOrder (orders ▸ member)
      · exact inOrder order earlier
      · exact change.filledInOrder (inOrder _ present)

/-- A fill keeps it as well, unless it overtakes the acknowledgement of its order. -/
theorem processFill_filledInOrder {terms : Terms} {report : ExecutionReport} {now : Instant}
    (unfilled : store.NewUnfilled) (inOrder : ∀ order ∈ store.orders, order.FilledInOrder)
    (timely : ¬(Request.settle (.fill report) terms now).Overtakes store) :
    ∀ order ∈ (store.perform (terms.processFill report now)).2.orders, order.FilledInOrder := by
  cases outcome : (store.perform (terms.processFill report now)).1 with
  | error failure =>
      rw [perform_error outcome]
      exact inOrder
  | ok value =>
      obtain ⟨-, -, ⟨-, -, same⟩ | ⟨order, resolved, ⟨-, -, same⟩ | ⟨-, fills⟩⟩⟩ :=
        Terms.processFill_cases (perform_ok outcome)
      · rw [same]
        exact inOrder
      · rw [same]
        exact inOrder
      · have present := Terms.resolveOrder?_mem resolved
        obtain ⟨fill, moved, advance, orders, -⟩ := fills_orders fills
        have known : order.status ≠ .new := by
          intro new
          have accepts := (Order.applyFill_new_iff new (unfilled order present new)).mp ⟨_, advance⟩
          exact timely ⟨order, resolved, new, accepts.2⟩
        intro other member
        rw [orders] at member
        obtain ⟨earlier, -⟩ | rfl := mem_replaceOrder member
        · exact inOrder other earlier
        · exact Order.applyFill_filledInOrder advance (inOrder order present) known

theorem apply_filledInOrder {request : Request} (unfilled : store.NewUnfilled)
    (inOrder : ∀ order ∈ store.orders, order.FilledInOrder) (timely : ¬request.Overtakes store) :
    ∀ order ∈ (request.apply store).orders, order.FilledInOrder := by
  cases request with
  | seed account asset amount now =>
      obtain ⟨balances, written⟩ := store.seed_tables account asset amount now
      rw [written]
      exact inOrder
  | settle call terms now =>
      have step := call.step terms now store
      cases call with
      | fill report => exact processFill_filledInOrder unfilled inOrder timely
      | create command => exact Step.filledInOrder step inOrder
      | acknowledge orderId exchange exchangeOrderId exchangeClientOrderId =>
          exact Step.filledInOrder step inOrder
      | cancel orderId account reason => exact Step.filledInOrder step inOrder
      | reject orderId reason => exact Step.filledInOrder step inOrder
      | status report => exact Step.filledInOrder step inOrder

theorem afterAll_filledInOrder {run : List Request} (unfilled : store.NewUnfilled)
    (inOrder : ∀ order ∈ store.orders, order.FilledInOrder) (timely : store.Avoids Request.Overtakes run) :
    ∀ order ∈ (store.afterAll run).orders, order.FilledInOrder := by
  induction run generalizing store with
  | nil => exact inOrder
  | cons request rest ih =>
      obtain ⟨first, others⟩ := timely
      rw [afterAll_cons]
      exact ih (apply_newUnfilled unfilled request) (apply_filledInOrder unfilled inOrder first)
        others

/-- A fill of an order that is neither acknowledged nor partially filled overtakes. -/
theorem fills_overtakes {terms : Terms} {order : Order} {report : ExecutionReport} {now : Instant}
    {executionId orderId : String} {status : OrderStatus} (unfilled : store.NewUnfilled)
    (member : order ∈ store.orders)
    (fills : terms.Fills order report now store (.inserted executionId orderId status) after) :
    order.status = .acknowledged ∨ order.status = .partiallyFilled ∨
      report.Overtakes order ∧ report.reportedStatus = some status ∧
        ∃ moved ∈ after.orders, moved.id = order.id ∧ moved.status = status ∧
          moved.filled.value = report.quantity.value := by
  obtain ⟨fill, moved, advance, orders, outcome⟩ := fills_orders fills
  cases outcome
  have advances := Order.applyFill_advances advance
  have openStatus := OrderStatus.not_terminal_of_canBecome advances.legal
  cases current : order.status with
  | new =>
      obtain ⟨-, partly, quantity, named, early⟩ :=
        Order.applyFill_new current (unfilled order member current) advance
      have writes := mem_replaceOrder_self member advances.id.symm
      rw [named]
      refine .inr (.inr ⟨⟨current, partly, ?_⟩, rfl, moved, orders ▸ writes, advances.id, rfl,
        quantity⟩)
      simpa only [named, Option.some.injEq] using early
  | acknowledged => exact .inl rfl
  | partiallyFilled => exact .inr (.inl rfl)
  | filled | canceled | rejected =>
      rw [current] at openStatus
      contradiction

/-- A fill is applied to an acknowledged or partially filled order, or it overtakes the
acknowledgement of a new one, which then gets the status that the report names and is filled by the
quantity of the fill.  A new order accepts a positive fill if and only if it overtakes.  In a run of
which no fill overtakes, nothing of an order is filled while it is acknowledged or after it was
rejected, and an order of which something is filled has the name that its acknowledgement gave it. -/
theorem fills_follow_acknowledgement (run : List Request) :
    (∀ (terms : Terms) (report : ExecutionReport) (now : Instant) (executionId orderId : String)
      (status : OrderStatus) (filled : Store),
      (reached run).perform (terms.processFill report now) =
        (.ok (.inserted executionId orderId status), filled) →
      ∃ order, (reached run).resolveOrder? report.exchange report.exchangeOrderId
          report.clientOrderId = some order ∧
        (order.status = .acknowledged ∨ order.status = .partiallyFilled ∨
          report.Overtakes order ∧ report.reportedStatus = some status ∧
            ∃ moved ∈ filled.orders, moved.id = order.id ∧ moved.status = status ∧
              moved.filled.value = report.quantity.value)) ∧
    (∀ order ∈ (reached run).orders, order.status = .new →
      ∀ (report : ExecutionReport) (now : Instant), 0 < report.quantity.value →
        ((∃ result, order.applyFill report.quantity report.reportedStatus now = .ok result) ↔
          report.Overtakes order)) ∧
    (({} : Store).Avoids Request.Overtakes run → ∀ order ∈ (reached run).orders,
      (order.status = .acknowledged ∨ order.status = .rejected → order.filled.value = 0) ∧
        (0 < order.filled.value → order.exchangeOrderId.isSome = true)) := by
  have unfilled := reached_newUnfilled run
  refine ⟨?_, ?_, ?_⟩
  · intro terms report now executionId orderId status filled done
    obtain ⟨-, -, ⟨-, other, -⟩ | ⟨order, resolved, ⟨-, other, -⟩ | ⟨-, fills⟩⟩⟩ :=
      Terms.processFill_cases (perform_ok_iff.mp done)
    · contradiction
    · contradiction
    · exact ⟨order, resolved, fills_overtakes unfilled (Terms.resolveOrder?_mem resolved) fills⟩
  · intro order member new report now positive
    rw [Order.applyFill_new_iff new (unfilled order member new), ExecutionReport.Overtakes]
    simp only [positive, new, true_and]
  · intro timely order member
    have empty : ∀ order ∈ ({} : Store).orders, order.FilledInOrder :=
      fun _ member => absurd member List.not_mem_nil
    have inOrder := afterAll_filledInOrder empty_newUnfilled empty timely order member
    refine ⟨fun early => inOrder.early (.inr early), ?_⟩
    intro positive
    cases name : order.exchangeOrderId with
    | none => exact absurd (inOrder.unnamed name).1 positive.ne'
    | some exchangeOrderId => rfl

theorem sample_fills_follow_acknowledgement :
    ({} : Store).Avoids Request.Overtakes Sample.canceled ∧
    ∃ order ∈ (reached Sample.canceled).orders, 0 < order.filled.value ∧
      order.exchangeOrderId.isSome = true := by
  have timely : ({} : Store).Avoids Request.Overtakes Sample.canceled := by decide +kernel
  have filled : ∃ order ∈ (reached Sample.canceled).orders, 0 < order.filled.value := by
    decide +kernel
  obtain ⟨order, member, positive⟩ := filled
  have kept := (fills_follow_acknowledgement Sample.canceled).2.2 timely order member
  exact ⟨timely, order, member, positive, kept.2 positive⟩

/-- The trade is applied to an order that was never acknowledged, if its report says that the order
is open: the order is then acknowledged, has no name, and one unit of it is filled. -/
theorem sample_trade_overtakes_acknowledgement :
    (∃ order ∈ (reached Sample.placed).resolveOrder? "binance" none (some "c-1"),
      order.status = .new) ∧
    ((reached Sample.placed).perform (Sample.terms.processFill (Sample.trade (some .acknowledged))
      Sample.start)).1 =
        .ok (.inserted "00000000-0000-4000-8000-000000000006" "o-1" .acknowledged) ∧
    ∃ order ∈ ((reached Sample.placed).perform (Sample.terms.processFill
        (Sample.trade (some .acknowledged)) Sample.start)).2.orders,
      order.status = .acknowledged ∧ order.filled.value = 1 ∧ order.exchangeOrderId = none := by
  decide +kernel

end Store

end SpotSettlement
