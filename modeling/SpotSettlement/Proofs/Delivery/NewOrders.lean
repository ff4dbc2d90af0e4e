import SpotSettlement.Proofs.Delivery.Messages
import SpotSettlement.Proofs.Settlement.Submissions

namespace SpotSettlement

/-! # No order is lost on its way to the exchange

A new order is announced by one row.  Until the row is delivered a dispatcher has still to deliver
it; once it is delivered the broker has a message that the workers have not acknowledged, since they
acknowledge it only when the order is no longer new.  So whatever fails in between, one of them will
come back to the order.
-/

theorem Store.Identified.withRows {store : Store} (identified : store.Identified)
    (change : OutboxRow → OutboxRow) : (store.withRows change).Identified :=
  ⟨identified.orders, identified.reservations, identified.executions, identified.keys,
    identified.booked⟩

namespace Delivery

variable {setup : DeliverySetup} {state : Delivery} {event : DeliveryEvent} {orderId : String}

/-- What links orders, rows, copies of rows and messages with each other. -/
structure Linked (setup : DeliverySetup) (state : Delivery) : Prop where
  identified : state.store.Identified
  /-- Each order has one row that submits it. -/
  announced : state.store.AnnouncesOrders setup.topic
  /-- Dispatchers hold copies of rows that there are. -/
  copies : ∀ dispatcher, ∀ copy ∈ (state.phases dispatcher).held,
    ∃ row ∈ state.store.outbox, row.asMade = copy.asMade
  sound : state.broker.Sound
  /-- The broker has what it said it took. -/
  handed : ∀ dispatcher copy rest, state.phases dispatcher = .reporting copy (.ok ()) rest →
    state.broker.Carries copy
  /-- The broker has what was delivered. -/
  delivered : ∀ row ∈ state.store.outbox, row.status = .published → state.broker.Carries row
  /-- The orders that acknowledged messages announce are no longer new. -/
  submitted : ∀ message ∈ state.broker.acknowledged setup.topic setup.group, ∀ orderId,
    Setup.announcedOrder? message.payload = some orderId → state.store.Submitted orderId

theorem start_linked (setup : DeliverySetup) : start.Linked setup := by
  have store : start.store = {} := rfl
  have broker : start.broker = {} := rfl
  constructor
  case identified =>
    rw [store]
    exact Store.empty_identified
  case announced =>
    rw [store]
    exact ⟨fun _ member => absurd member List.not_mem_nil, fun _ _ => rfl⟩
  case copies => exact fun _ _ => nofun
  case sound =>
    rw [broker]
    exact Broker.empty_sound
  case handed => exact fun _ _ _ => nofun
  case delivered =>
    rw [store]
    exact fun _ => nofun
  case submitted =>
    rw [broker, Broker.empty_acknowledged]
    exact fun _ => nofun

section Steps

variable (linked : state.Linked setup) (unique : (state.store.outbox.map (·.id)).Nodup)

include linked unique

theorem Linked.step_identified : (state.step setup event).store.Identified :=
  step_store_keeps Store.Identified unique
    (fun change _ identified => identified.withRows change)
    (fun request _ _ identified => Store.afterAll_identified identified [request])
    linked.identified

theorem Linked.step_announced (within : ∀ now ∈ event.moment?, now.inRange = true) :
    (state.step setup event).store.AnnouncesOrders setup.topic := by
  refine step_store_keeps (·.AnnouncesOrders setup.topic) unique
    (fun _ relaying announced => announced.withRows relaying) ?_ linked.announced
  intro request store does announced
  cases request with
  | seed account asset amount now => exact announced.seed account asset amount now
  | settle call terms now =>
      obtain ⟨rfl, moment⟩ := does
      exact announced.apply call (within now moment)

theorem Linked.step_submitted (submitted : state.store.Submitted orderId) :
    (state.step setup event).store.Submitted orderId := by
  have both : (state.step setup event).store.Identified ∧
      (state.step setup event).store.Submitted orderId := by
    refine step_store_keeps (fun store => store.Identified ∧ store.Submitted orderId) unique ?_ ?_
      ⟨linked.identified, submitted⟩
    · exact fun change _ ⟨identified, submitted⟩ => ⟨identified.withRows change, submitted⟩
    · exact fun request _ _ ⟨identified, submitted⟩ =>
        ⟨Store.afterAll_identified identified [request], submitted.afterAll identified [request]⟩
  exact both.2

theorem Linked.step_copies : ∀ dispatcher,
    ∀ copy ∈ ((state.step setup event).phases dispatcher).held,
      ∃ row ∈ (state.step setup event).store.outbox, row.asMade = copy.asMade := by
  intro dispatcher copy held
  have earlier : ∃ row ∈ state.store.outbox, row.asMade = copy.asMade :=
    (step_held unique held).elim (linked.copies dispatcher copy) id
  obtain ⟨row, member, same⟩ := earlier
  obtain ⟨rows, adds⟩ := step_adds setup unique event
  refine ⟨state.change setup event row, ?_, (state.change_relaying setup event row).trans same⟩
  rw [adds.outbox]
  exact List.mem_append_left _ (List.mem_map_of_mem member)

/-- Messages stay at the broker, and those that are acknowledged announce no new order. -/
theorem Linked.step_broker : state.broker.messages ⊆ (state.step setup event).broker.messages ∧
    (state.step setup event).broker.Sound ∧
    ∀ message ∈ (state.step setup event).broker.acknowledged setup.topic setup.group, ∀ orderId,
      Setup.announcedOrder? message.payload = some orderId →
        (state.step setup event).store.Submitted orderId := by
  by_cases poll : ∃ talk stopAt now, event = .poll talk stopAt now
  · obtain ⟨talk, stopAt, now, rfl⟩ := poll
    have passes := poll_acknowledges setup linked.sound linked.identified talk stopAt now
    refine ⟨passes.messages ▸ List.Subset.refl _, passes.sound, ?_⟩
    intro message member orderId names
    obtain earlier | known := passes.acknowledged message member
    · exact linked.step_submitted unique (linked.submitted message earlier orderId names)
    · exact known orderId names
  · have grows : (state.step setup event).broker.Extends state.broker :=
      step_extends linked.sound fun talk stopAt now same => poll ⟨talk, stopAt, now, same⟩
    refine ⟨grows.messages, grows.sound, ?_⟩
    intro message member orderId names
    rw [grows.acknowledged] at member
    exact linked.step_submitted unique (linked.submitted message member orderId names)

theorem Linked.step_handed : ∀ dispatcher copy rest,
    (state.step setup event).phases dispatcher = .reporting copy (.ok ()) rest →
      (state.step setup event).broker.Carries copy := by
  intro dispatcher copy rest phase
  obtain earlier | ⟨handover, done, broker⟩ := step_reporting phase
  · exact (linked.handed dispatcher copy rest earlier).mono (linked.step_broker unique).1
  · rw [broker]
    exact handover.publish_carries done

/-- A row that is delivered was delivered before, or has been handed to the broker. -/
theorem Linked.step_delivered : ∀ row ∈ (state.step setup event).store.outbox,
    row.status = .published → (state.step setup event).broker.Carries row := by
  intro row member published
  have more : state.broker.messages ⊆ (state.step setup event).broker.messages :=
    (linked.step_broker unique).1
  obtain ⟨rows, adds⟩ := step_adds setup unique event
  rw [adds.outbox] at member
  obtain changed | added := List.mem_append.mp member
  · obtain ⟨earlier, present, rfl⟩ := List.mem_map.mp changed
    have lookup := Store.outboxRow?_of_mem unique present
    have relaying := state.change_relaying setup event earlier
    refine Broker.Carries.congr ?_ relaying.symm
    obtain same | ⟨_, _, -, -, same⟩ | ⟨_, _, -, -, same⟩ |
      ⟨dispatcher, _, copy, result, rest, -, phase, about, same⟩ | ⟨_, _, -, -, same⟩ :=
      change_cases setup event unique lookup
    · rw [same] at published
      exact (linked.delivered earlier present published).mono more
    · rw [same] at published
      contradiction
    · rw [same] at published
      contradiction
    · rw [same] at published
      cases result with
      | error error => exact absurd published (OutboxRow.settled_error error).1
      | ok =>
          have held : copy ∈ (state.phases dispatcher).held := by
            rw [phase]
            exact List.mem_cons_self
          obtain ⟨original, there, made⟩ := linked.copies dispatcher copy held
          obtain rfl := List.inj_on_of_nodup_map unique there present
            ((OutboxRow.asMade_id made).trans about)
          exact ((linked.handed dispatcher copy rest phase).mono more).congr made.symm
    · rw [same] at published
      contradiction
  · rw [(adds.unsent row added).1] at published
    contradiction

theorem Linked.step (within : ∀ now ∈ event.moment?, now.inRange = true) :
    (state.step setup event).Linked setup where
  identified := linked.step_identified unique
  announced := linked.step_announced unique within
  copies := linked.step_copies unique
  sound := (linked.step_broker unique).2.1
  handed := linked.step_handed unique
  delivered := linked.step_delivered unique
  submitted := (linked.step_broker unique).2.2

end Steps

theorem reached_linked {run : List DeliveryEvent}
    (clock : ∀ event ∈ run, ∀ now ∈ event.moment?, now.inRange = true) :
    (reached setup run).Linked setup := by
  refine reached_induction (·.Linked setup) (start_linked setup) ?_
  intro earlier event member linked
  exact linked.step (reached_issued setup earlier).1 (clock event member)

/-- As long as an order is new, the one row that submits it is still to be delivered, or the broker
has a message that announces the order and that the workers have not acknowledged.  The moments of
the run are those that a clock can show. -/
theorem new_orders_are_on_their_way (setup : DeliverySetup) (run : List DeliveryEvent)
    (clock : ∀ event ∈ run, ∀ now ∈ event.moment?, now.inRange = true) :
    ∀ order ∈ (reached setup run).store.orders, order.status = .new →
      ∃ row, (reached setup run).store.submissionsOf order.id = [row] ∧
        (row.status ≠ .published ∨
          ∃ message ∈ (reached setup run).broker.messagesOf setup.topic,
            Setup.announcedOrder? message.payload = some order.id ∧
              message ∉ (reached setup run).broker.acknowledged setup.topic setup.group) := by
  intro order member new
  have linked : (reached setup run).Linked setup := reached_linked clock
  obtain ⟨row, rows, topic, names⟩ := linked.announced.one order member
  -- If the row was delivered, the message is the one that the broker has carried since.
  refine ⟨row, rows, or_iff_not_imp_left.mpr fun delivered => ?_⟩
  have published : row.status = .published := not_not.mp delivered
  have present : row ∈ (reached setup run).store.outbox :=
    List.mem_of_mem_filter (rows ▸ List.mem_cons_self)
  obtain ⟨message, there, sameTopic, payload⟩ := linked.delivered row present published
  refine ⟨message, Broker.mem_messagesOf.mpr ⟨there, sameTopic.trans topic⟩, payload ▸ names, ?_⟩
  -- Had the workers acknowledged it, the order would no longer be new.
  intro acknowledged
  obtain ⟨other, otherMember, same, known⟩ :=
    linked.submitted message acknowledged order.id (payload ▸ names)
  obtain rfl := List.inj_on_of_nodup_map linked.identified.orders otherMember member same
  exact known new

/-- The row of the sample order is delivered before the worker makes its first pass, so the broker
has a message for the worker. -/
theorem sample_new_order_is_on_its_way :
    ∃ order ∈ (reached Sample.delivery Sample.published).store.orders, order.status = .new ∧
      ∃ row, (reached Sample.delivery Sample.published).store.submissionsOf order.id = [row] ∧
        row.status = .published ∧
        ∃ message ∈ (reached Sample.delivery Sample.published).broker.messagesOf
            Sample.delivery.topic,
          Setup.announcedOrder? message.payload = some order.id ∧
            message ∉ (reached Sample.delivery Sample.published).broker.acknowledged
              Sample.delivery.topic Sample.delivery.group := by
  have clock : ∀ event ∈ Sample.published, ∀ now ∈ event.moment?, now.inRange = true := by
    decide +kernel
  have created : ∃ order ∈ (reached Sample.delivery Sample.published).store.orders,
      order.status = .new ∧ ∀ row ∈ (reached Sample.delivery Sample.published).store.submissionsOf
        order.id, row.status = .published := by
    decide +kernel
  obtain ⟨order, member, new, delivered⟩ := created
  obtain ⟨row, rows, onItsWay⟩ := new_orders_are_on_their_way Sample.delivery Sample.published clock
    order member new
  have published : row.status = .published := delivered row (rows ▸ List.mem_cons_self)
  exact ⟨order, member, new, row, rows, published,
    onItsWay.resolve_left (not_not.mpr published)⟩

end Delivery

end SpotSettlement
