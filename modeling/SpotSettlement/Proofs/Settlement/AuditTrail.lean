import SpotSettlement.Proofs.Settlement.Identities

namespace SpotSettlement

/-! # The audit trail of an order

The trail begins with the creation of the order.  Every later row makes a legal change from the
status in which the row before it left the order, and the last one leaves the order as it stands.
-/

open Decimal

/-- The rows lead from one status to another, each from where the one before it ended. -/
inductive OrderStatus.Walk {α : Type} (tells : α → OrderStatus → OrderStatus → Prop) :
    OrderStatus → List α → OrderStatus → Prop where
  | done (status : OrderStatus) : Walk tells status [] status
  | step {before next after : OrderStatus} {row : α} {rest : List α} (told : tells row before next)
      (further : Walk tells next rest after) : Walk tells before (row :: rest) after

theorem OrderStatus.Walk.concat {α : Type} {tells : α → OrderStatus → OrderStatus → Prop}
    {before middle after : OrderStatus} {rows : List α} {row : α}
    (walk : Walk tells before rows middle) (told : tells row middle after) :
    Walk tells before (rows ++ [row]) after := by
  induction walk with
  | done status => exact .step told (.done after)
  | step first _ ih => exact .step first (ih told)

theorem Order.Change.transition_eq {order moved : Order} {now : Instant}
    {eventType : OrderEventType} {transition : Transition}
    (change : order.Change now eventType transition moved) :
    transition = ⟨order.status, moved.status⟩ ∧ eventType ≠ .created := by
  cases change with
  | acknowledged given =>
      obtain ⟨fresh, rfl, rfl⟩ := acknowledge_ok given
      exact ⟨by rw [fresh], by decide⟩
  | canceled given =>
      obtain ⟨-, rfl, rfl⟩ := close_ok (cancel_ok given).2
      exact ⟨rfl, by decide⟩
  | rejected given =>
      obtain ⟨-, rfl, rfl⟩ := close_ok given
      exact ⟨rfl, by decide⟩
  | reported _ given =>
      obtain ⟨next, -, rfl, rfl⟩ := applyReportedStatus_ok given
      exact ⟨rfl, by decide⟩

theorem Order.applyFill_transition {order moved : Order} {quantity : Decimal}
    {reported : Option OrderStatus} {now : Instant} {fill : FillTransition}
    (filled : order.applyFill quantity reported now = .ok (fill, moved)) :
    fill.transition = ⟨order.status, moved.status⟩ := by
  obtain ⟨-, sum, next, -, -, rfl, rfl⟩ := applyFill_ok filled
  rfl

namespace OrderEvent

/-- The row records the creation of the order. -/
structure Opens (event : OrderEvent) (orderId : String) : Prop where
  orderId : event.orderId = orderId
  eventType : event.eventType = .created
  previousStatus : event.previousStatus = none
  status : event.status = .new

/-- The row records a legal change of status. -/
structure Changes (event : OrderEvent) (before after : OrderStatus) : Prop where
  previousStatus : event.previousStatus = some before
  status : event.status = after
  legal : before.canBecome after = true

end OrderEvent

namespace Store

variable {store after : Store} {filling : Option ExecutionReport} {operations : List Operation}
  {event : OrderEvent} {order moved : Order} {executions : List Execution} {id : String}

theorem orderEventsOf_append (events : after.orderEvents = store.orderEvents ++ [event])
    (id : String) : after.orderEventsOf id =
      store.orderEventsOf id ++ if event.orderId = id then [event] else [] := by
  rw [orderEventsOf, events, List.filter_append, orderEventsOf]
  by_cases same : event.orderId = id <;> simp [same]

/-- How often the audit trail of an order records a fill. -/
def fillsRecorded (store : Store) (id : String) : Nat :=
  ((store.orderEventsOf id).filter (·.eventType == .executionApplied)).length

theorem fillsRecorded_append (events : after.orderEvents = store.orderEvents ++ [event])
    (id : String) : after.fillsRecorded id = store.fillsRecorded id +
      if event.orderId = id ∧ event.eventType = .executionApplied then 1 else 0 := by
  rw [fillsRecorded, orderEventsOf_append events, List.filter_append, List.length_append,
    fillsRecorded]
  by_cases same : event.orderId = id <;> by_cases fill : event.eventType = .executionApplied <;>
    simp [same, fill]

/-- What a step adds to the audit trail, beside what it does to orders and executions. -/
inductive Audits (store after : Store) : Prop where
  | nothing (orders : after.orders = store.orders) (events : after.orderEvents = store.orderEvents)
      (executions : after.executions = store.executions)
  | opened {order : Order} {event : OrderEvent} (new : order.status = .new)
      (absent : store.order? order.id = none) (opens : event.Opens order.id)
      (orders : after.orders = placeOrder order store.orders)
      (events : after.orderEvents = store.orderEvents ++ [event])
      (executions : after.executions = store.executions)
  | changed {order moved : Order} {event : OrderEvent} {executions : List Execution}
      (member : order ∈ store.orders) (named : moved.id = order.id)
      (owner : event.orderId = order.id) (later : event.eventType ≠ .created)
      (changes : event.Changes order.status moved.status)
      (count : executions.length = if event.eventType = .executionApplied then 1 else 0)
      (belong : ∀ execution ∈ executions, execution.orderId = order.id)
      (orders : after.orders = replaceOrder moved store.orders)
      (events : after.orderEvents = store.orderEvents ++ [event])
      (grown : after.executions = store.executions ++ executions)

theorem Step.audits (step : store.Step filling operations after) : store.Audits after := by
  cases step with
  | idle => exact .nothing rfl rfl rfl
  | created create absent _ reserve _ _ =>
      have funds := Funds.reserveFor_funds reserve
      exact .opened (Order.create_ok create).1 absent ⟨rfl, rfl, rfl, rfl⟩ funds.orders
        (congrArg (· ++ [_]) funds.orderEvents) funds.executions
  | moved _ member change close _ _ =>
      have funds := Terms.releaseIfClosed_funds close
      have advances := change.advances
      obtain ⟨rfl, later⟩ := change.transition_eq
      refine .changed member advances.id advances.id later ⟨rfl, rfl, advances.legal⟩ ?_
        (List.forall_mem_nil _) funds.orders (congrArg (· ++ [_]) funds.orderEvents) ?_
      · rw [if_neg change.same_filled.2.2]
        rfl
      · rw [List.append_nil]
        exact funds.executions
  | filled resolved _ fills =>
      obtain ⟨-, executions, -⟩ := fills_tables fills
      cases fills with
      | applied _ _ _ settle _ advance close audited _ _ _ =>
          have settled := Funds.settleFill_funds settle
          have closed := Terms.releaseIfClosed_funds close
          have advances := Order.applyFill_advances advance
          obtain ⟨details, rfl⟩ := audited
          rw [Order.applyFill_transition advance]
          refine .changed (Terms.resolveOrder?_mem resolved) advances.id advances.id (by simp)
            ⟨rfl, rfl, advances.legal⟩ rfl ?_
            (closed.orders.trans (congrArg (replaceOrder _) settled.orders))
            (congrArg (· ++ [_]) (closed.orderEvents.trans settled.orderEvents)) executions
          intro execution member
          rw [List.mem_singleton.mp member]
          rfl

/-- Every order has a trail that leads to where it stands, and where there is no order there is no
trail.  The trails record as many fills as there are executions. -/
structure Audited (store : Store) : Prop where
  trail : ∀ order ∈ store.orders, ∃ created later,
    store.orderEventsOf order.id = created :: later ∧ created.Opens order.id ∧
      (∀ event ∈ later, event.eventType ≠ .created) ∧
      OrderStatus.Walk OrderEvent.Changes .new later order.status
  only : ∀ id, (∀ order ∈ store.orders, order.id ≠ id) → store.orderEventsOf id = []
  fills : ∀ id, store.fillsRecorded id = (store.executionsOf id).length

theorem empty_audited : ({} : Store).Audited :=
  ⟨List.forall_mem_nil _, fun _ _ => rfl, fun _ => rfl⟩

theorem Audited.congr (audited : store.Audited) (orders : after.orders = store.orders)
    (events : after.orderEvents = store.orderEvents)
    (executions : after.executions = store.executions) : after.Audited where
  trail order member := by
    rw [orderEventsOf, events]
    exact audited.trail order (orders ▸ member)
  only id absent := by
    rw [orderEventsOf, events]
    exact audited.only id (orders ▸ absent)
  fills id := by
    rw [fillsRecorded, orderEventsOf, events, executionsOf, executions]
    exact audited.fills id

/-- The trail of a new order is the row of its creation. -/
theorem Audited.opened (audited : store.Audited) (new : order.status = .new)
    (absent : store.order? order.id = none) (opens : event.Opens order.id)
    (orders : after.orders = placeOrder order store.orders)
    (events : after.orderEvents = store.orderEvents ++ [event])
    (executions : after.executions = store.executions) : after.Audited where
  trail other member := by
    rw [orders, mem_placeOrder_iff absent] at member
    rw [orderEventsOf_append events]
    obtain rfl | ⟨earlier, different⟩ := member
    · rw [audited.only _ fun other => order?_none absent, if_pos opens.orderId, new]
      exact ⟨event, [], rfl, opens, List.forall_mem_nil _, .done .new⟩
    · rw [opens.orderId, if_neg different.symm, List.append_nil]
      exact audited.trail other earlier
  only id unknown := by
    rw [orders] at unknown
    rw [orderEventsOf_append events, opens.orderId,
      if_neg (unknown order (mem_placeOrder.mpr (.inl rfl))), List.append_nil]
    exact audited.only id fun other member => unknown other (mem_placeOrder.mpr (.inr member))
  fills id := by
    have other : ¬(event.orderId = id ∧ event.eventType = .executionApplied) := by
      simp [opens.eventType]
    rw [fillsRecorded_append events, if_neg other, executionsOf, executions]
    exact audited.fills id

/-- A change of an order goes on where its trail has ended. -/
theorem Audited.changed (audited : store.Audited) (member : order ∈ store.orders)
    (named : moved.id = order.id) (owner : event.orderId = order.id)
    (later : event.eventType ≠ .created) (changes : event.Changes order.status moved.status)
    (count : executions.length = if event.eventType = .executionApplied then 1 else 0)
    (belong : ∀ execution ∈ executions, execution.orderId = order.id)
    (orders : after.orders = replaceOrder moved store.orders)
    (events : after.orderEvents = store.orderEvents ++ [event])
    (grown : after.executions = store.executions ++ executions) : after.Audited where
  trail other present := by
    rw [orders, mem_replaceOrder_iff member named.symm] at present
    rw [orderEventsOf_append events, owner]
    obtain rfl | ⟨earlier, different⟩ := present
    · obtain ⟨created, rest, trail, opens, others, walk⟩ := audited.trail order member
      rw [named, if_pos rfl, trail]
      refine ⟨created, rest ++ [event], rfl, opens, ?_, walk.concat changes⟩
      intro row listed
      obtain listed | last := List.mem_append.mp listed
      · exact others row listed
      · exact List.mem_singleton.mp last ▸ later
    · rw [if_neg (named ▸ different.symm), List.append_nil]
      exact audited.trail other earlier
  only id unknown := by
    rw [orders] at unknown
    have elsewhere : ¬event.orderId = id := by
      rw [owner, ← named]
      exact unknown moved (mem_replaceOrder_self member named.symm)
    rw [orderEventsOf_append events, if_neg elsewhere, List.append_nil]
    exact audited.only id (absent_of_replaceOrder unknown)
  fills id := by
    rw [fillsRecorded_append events, owner, audited.fills id, executionsOf, executionsOf, grown,
      List.filter_append, List.length_append, Nat.add_left_cancel_iff]
    by_cases same : order.id = id
    · have all : executions.filter (·.orderId == id) = executions :=
        List.filter_eq_self.mpr fun execution listed => by simp [belong execution listed, same]
      simp [same, all, count]
    · have none : executions.filter (·.orderId == id) = [] :=
        List.filter_eq_nil_iff.mpr fun execution listed => by simp [belong execution listed, same]
      simp [same, none]

theorem Step.audited (step : store.Step filling operations after) (audited : store.Audited) :
    after.Audited := by
  cases step.audits with
  | nothing orders events executions => exact audited.congr orders events executions
  | opened new absent opens orders events executions =>
      exact audited.opened new absent opens orders events executions
  | changed member named owner later changes count belong orders events grown =>
      exact audited.changed member named owner later changes count belong orders events grown

theorem reached_audited (run : List Request) : (reached run).Audited :=
  afterAll_induction Audited empty_audited fun request _ _ audited =>
    apply_induction Audited request audited (fun _ earlier => earlier.congr rfl rfl rfl)
      Step.audited

/-- The audit trail of an order is a legal history: it begins with the creation of the order and
with nothing else like it, leads from there to the status of the order by legal changes, and records
as many fills as the order has executions. -/
theorem audit_trail_is_legal_history (run : List Request) :
    ∀ order ∈ (reached run).orders, ∃ created later,
      (reached run).orderEventsOf order.id = created :: later ∧
        (created.eventType = .created ∧ created.previousStatus = none ∧ created.status = .new) ∧
        (∀ event ∈ later, event.eventType ≠ .created) ∧
        OrderStatus.Walk OrderEvent.Changes .new later order.status ∧
        ((created :: later).filter (·.eventType == .executionApplied)).length =
          ((reached run).executionsOf order.id).length := by
  intro order member
  have audited := reached_audited run
  obtain ⟨created, later, trail, opens, others, walk⟩ := audited.trail order member
  refine ⟨created, later, trail, ⟨opens.eventType, opens.previousStatus, opens.status⟩, others,
    walk, ?_⟩
  rw [← trail]
  exact audited.fills order.id

theorem sample_audit_trail_is_legal_history :
    ∃ order ∈ (reached Sample.canceled).orders, order.status = .canceled ∧
      ∃ created later, (reached Sample.canceled).orderEventsOf order.id = created :: later ∧
        later.map (·.eventType) = [.acknowledged, .executionApplied, .canceled] ∧
        OrderStatus.Walk OrderEvent.Changes .new later .canceled := by
  have canceled : ∃ order ∈ (reached Sample.canceled).orders, order.status = .canceled ∧
      ((reached Sample.canceled).orderEventsOf order.id).tail.map (·.eventType) =
        [.acknowledged, .executionApplied, .canceled] := by
    decide +kernel
  obtain ⟨order, member, status, recorded⟩ := canceled
  obtain ⟨created, later, trail, -, -, walk, -⟩ :=
    audit_trail_is_legal_history Sample.canceled order member
  rw [trail] at recorded
  exact ⟨order, member, status, created, later, trail, recorded, status ▸ walk⟩

end Store

end SpotSettlement
