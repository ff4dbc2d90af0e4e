import SpotSettlement.Proofs.Outbox.Envelopes
import SpotSettlement.Proofs.Settlement.Outbox
import SpotSettlement.Proofs.Store.Outbox

namespace SpotSettlement

/-! # The rows that submit orders

Creating an order adds the one row that announces it for submission.  No other request adds such a
row, and none is taken away.
-/

open OutboxRow

/-- The row goes to the topic, and its message names the order. -/
def OutboxRow.Submits (row : OutboxRow) (topic orderId : String) : Prop :=
  row.topic = topic ∧ Setup.announcedOrder? row.payload = some orderId

namespace Store

variable {store after : Store} {change : OutboxRow → OutboxRow} {rows : List OutboxRow}
  {topic orderId : String}

def submissionsOf (store : Store) (orderId : String) : List OutboxRow :=
  store.outbox.filter fun row => row.eventType == .orderSubmitted && row.aggregateId == orderId

/-- Every order has one row that submits it, and where there is no order there is no such row. -/
structure AnnouncesOrders (store : Store) (topic : String) : Prop where
  one : ∀ order ∈ store.orders, ∃ row, store.submissionsOf order.id = [row] ∧
    row.Submits topic order.id
  only : ∀ orderId, (∀ order ∈ store.orders, order.id ≠ orderId) → store.submissionsOf orderId = []

theorem submissionsOf_withRows (relaying : Relaying change) (orderId : String) :
    (store.withRows change).submissionsOf orderId = (store.submissionsOf orderId).map change := by
  have kept : (fun row : OutboxRow => row.eventType == .orderSubmitted &&
      row.aggregateId == orderId) ∘ change = fun row => row.eventType == .orderSubmitted &&
        row.aggregateId == orderId := by
    funext row
    obtain ⟨eventType, aggregate, -⟩ := asMade_announcement (relaying row)
    simp only [Function.comp_apply, eventType, aggregate]
  rw [submissionsOf, withRows, List.filter_map, kept]
  rfl

theorem AddsRows.submissionsOf (adds : store.AddsRows after rows) (orderId : String) :
    after.submissionsOf orderId = store.submissionsOf orderId ++
      rows.filter fun row => row.eventType == .orderSubmitted && row.aggregateId == orderId := by
  rw [Store.submissionsOf, adds.outbox, List.filter_append]
  rfl

theorem AnnouncesOrders.withRows (announced : store.AnnouncesOrders topic)
    (relaying : Relaying change) : (store.withRows change).AnnouncesOrders topic where
  one order member := by
    obtain ⟨row, rows, rowTopic, names⟩ := announced.one order member
    obtain ⟨-, -, sameTopic, payload⟩ := asMade_announcement (relaying row)
    refine ⟨change row, ?_, sameTopic.trans rowTopic, payload ▸ names⟩
    rw [submissionsOf_withRows relaying, rows]
    rfl
  only orderId absent := by
    rw [submissionsOf_withRows relaying, announced.only orderId absent]
    rfl

/-- Rows that submit no order leave what announces orders. -/
theorem AnnouncesOrders.others (announced : store.AnnouncesOrders topic)
    (adds : store.AddsRows after rows) (others : ∀ row ∈ rows, row.eventType ≠ .orderSubmitted)
    (orders : after.orders.map (·.id) = store.orders.map (·.id)) :
    after.AnnouncesOrders topic := by
  have same : ∀ orderId, after.submissionsOf orderId = store.submissionsOf orderId := by
    intro orderId
    rw [adds.submissionsOf, List.filter_eq_nil_iff.mpr (by simp_all), List.append_nil]
  constructor
  case one =>
    intro order member
    have listed := List.mem_map_of_mem member (f := (·.id))
    rw [orders] at listed
    obtain ⟨earlier, present, named⟩ := List.mem_map.mp listed
    rw [same, ← named]
    exact announced.one earlier present
  case only =>
    intro orderId absent
    rw [same]
    refine announced.only orderId fun order member => ?_
    have listed := List.mem_map_of_mem member (f := (·.id))
    rw [← orders] at listed
    obtain ⟨later, present, named⟩ := List.mem_map.mp listed
    exact named ▸ absent later present

/-- A new order comes with the row that submits it. -/
theorem AnnouncesOrders.created {row : OutboxRow} {order : Order}
    (announced : store.AnnouncesOrders topic) (adds : store.AddsRows after (row :: rows))
    (eventType : row.eventType = .orderSubmitted) (aggregate : row.aggregateId = order.id)
    (submits : row.Submits topic order.id)
    (others : ∀ row ∈ rows, row.eventType ≠ .orderSubmitted)
    (absent : store.order? order.id = none)
    (orders : after.orders = placeOrder order store.orders) :
    after.AnnouncesOrders topic := by
  have rest : ∀ orderId, rows.filter (fun row => row.eventType == .orderSubmitted &&
      row.aggregateId == orderId) = [] := by
    intro orderId
    exact List.filter_eq_nil_iff.mpr (by simp_all)
  have other : ∀ orderId, order.id ≠ orderId →
      after.submissionsOf orderId = store.submissionsOf orderId := by
    intro orderId different
    rw [adds.submissionsOf, List.filter_cons_of_neg (by simp [aggregate, different]), rest,
      List.append_nil]
  constructor
  case one =>
    intro found member
    rw [orders, mem_placeOrder_iff absent] at member
    obtain rfl | ⟨earlier, different⟩ := member
    · refine ⟨row, ?_, submits⟩
      rw [adds.submissionsOf, List.filter_cons_of_pos (by simp [eventType, aggregate]), rest,
        announced.only _ fun other => order?_none absent]
      rfl
    · rw [other found.id different.symm]
      exact announced.one found earlier
  case only =>
    intro orderId unknown
    rw [orders] at unknown
    rw [other orderId (unknown order (mem_placeOrder.mpr (.inl rfl)))]
    exact announced.only orderId fun found member =>
      unknown found (mem_placeOrder.mpr (.inr member))

theorem AnnouncesOrders.seed (announced : store.AnnouncesOrders topic) (account asset : String)
    (amount : Decimal) (now : Instant) :
    ((Request.seed account asset amount now).apply store).AnnouncesOrders topic := by
  obtain ⟨balances, written⟩ := store.seed_tables account asset amount now
  rw [written]
  exact ⟨announced.one, announced.only⟩

variable {terms : Terms} {now : Instant}

/-- A call of settlement keeps what announces orders, as long as the calendar has its moment. -/
theorem AnnouncesOrders.apply (announced : store.AnnouncesOrders (OrderSubmitted.schema.topic
    terms.topicPrefix)) (call : Call) (within : now.inRange = true) :
    (call.apply terms now store).AnnouncesOrders (OrderSubmitted.schema.topic
      terms.topicPrefix) := by
  obtain ⟨rows, adds, others, orders⟩ | ⟨row, rest, order, number, adds, announces, others,
    createdAt, absent, orders⟩ := (call.effect terms now store).outbox_cases
  · exact announced.others adds others orders
  · have made := announces.cases
    have named := announces.announcedOrder? within (createdAt ▸ within)
    exact announced.created adds made.2.2.2.2.2.1 made.2.2.2.2.1 ⟨made.2.2.2.2.2.2.1, named⟩ others
      absent orders

end Store

end SpotSettlement
