import SpotSettlement.Engine.Submission
import SpotSettlement.Proofs.Engine.Activities
import SpotSettlement.Proofs.Settlement.Progress

namespace SpotSettlement

/-! # What submitting orders ensures

Whatever the exchange answers, a worker changes the store by calls of settlement alone, and it
acknowledges a message only if the message announces no order or the order that it announces is no
longer new.
-/

open Activity Engine

/-- The store has the order, and it is no longer new. -/
def Store.Submitted (store : Store) (orderId : String) : Prop :=
  ∃ order ∈ store.orders, order.id = orderId ∧ order.status ≠ .new

theorem Store.Submitted.afterAll {store : Store} {orderId : String}
    (submitted : store.Submitted orderId) (identified : store.Identified) (run : List Request) :
    (store.afterAll run).Submitted orderId := by
  obtain ⟨order, member, named, known⟩ := submitted
  obtain ⟨later, present, leads⟩ := Store.afterAll_leadsTo run identified member
  exact ⟨later, present, leads.id.trans named, (leads.known known).1⟩

namespace Terms

variable {terms : Terms} {store after : Store} {moved : Order} {orderId : String} {now : Instant}

theorem Moves.submitted {order : Order} {eventType : OrderEventType} {transition : Transition}
    (moves : terms.Moves now eventType transition moved store after) (member : order ∈ store.orders)
    (change : order.Change now eventType transition moved) : after.Submitted order.id := by
  have advances := change.advances
  exact ⟨moved, moves.orders ▸ Store.mem_replaceOrder_self member advances.id.symm, advances.id,
    OrderStatus.ne_new_of_canBecome advances.legal⟩

theorem acknowledgeOrder_submitted {exchange exchangeOrderId : String}
    {exchangeClientOrderId : Option String} {outcome : Option Transition}
    (done : (terms.acknowledgeOrder orderId exchange exchangeOrderId exchangeClientOrderId now).run
      store = .ok (outcome, after)) : after.Submitted orderId := by
  obtain ⟨order, moved, found, given, ⟨rfl, rfl⟩ | ⟨transition, rfl, moves⟩⟩ :=
    acknowledgeOrder_cases done
  · obtain ⟨member, named⟩ := Store.order?_some found
    refine ⟨order, member, named, ?_⟩
    rw [Order.acknowledge_again given]
    decide
  · obtain ⟨member, rfl⟩ := Store.order?_some found
    exact moves.submitted member (.acknowledged given)

theorem rejectOrder_submitted {reason : String}
    (done : (terms.rejectOrder orderId reason now).run store = .ok (moved, after)) :
    after.Submitted orderId := by
  obtain ⟨order, transition, found, reject, moves⟩ := rejectOrder_cases done
  obtain ⟨member, rfl⟩ := Store.order?_some found
  exact moves.submitted member (.rejected reject)

end Terms

/-- The store after calls of settlement, all at one moment. -/
def Store.afterCalls (store : Store) (terms : Terms) (now : Instant) (calls : List Call) : Store :=
  store.afterAll (calls.map fun call => .settle call terms now)

/-- The broker is the same, and the store is some calls of settlement further. -/
def Engine.SettlesOn (engine : Engine) (terms : Terms) (now : Instant) (after : Engine) : Prop :=
  after.broker = engine.broker ∧ ∃ calls, after.store = engine.store.afterCalls terms now calls

variable {terms : Terms} {moment : Instant}

theorem Engine.KeepsData.settlesOn {engine middle after : Engine} (kept : engine.KeepsData middle)
    (settles : middle.SettlesOn terms moment after) : engine.SettlesOn terms moment after := by
  obtain ⟨broker, calls, store⟩ := settles
  exact ⟨broker.trans kept.2, calls, kept.1 ▸ store⟩

theorem Engine.KeepsData.settlesOn_self {engine after : Engine} (kept : engine.KeepsData after) :
    engine.SettlesOn terms moment after :=
  ⟨kept.2, [], kept.1⟩

namespace Setup

variable {setup : Setup} {engine : Engine} {orderId : String} {now : Instant}

/-- What a submission leaves: if it has an outcome, the order is no longer new. -/
def Submits (setup : Setup) (now : Instant) (engine : Engine) (orderId : String)
    (result : Except Interruption (Except SettlementError SubmissionOutcome)) (after : Engine) :
    Prop :=
  engine.SettlesOn setup.terms now after ∧
    ∀ outcome, result = .ok (.ok outcome) → after.store.Submitted orderId

/-- A call that makes the order known ends a submission. -/
theorem submits_of_call {α : Type} {work : Work α} {respond : α → SubmissionOutcome} (call : Call)
    (applied : (engine.store.perform work).2 = call.apply setup.terms now engine.store)
    (submitted : ∀ value after, work.run engine.store = .ok (value, after) →
      after.Submitted orderId) :
    (do
      let recorded ← Engine.perform work
      return recorded.map respond : Activity (Except SettlementError SubmissionOutcome)).Ensures
      engine (setup.Submits now engine orderId) := by
  refine ensures_bind (perform_ensures ?_ ?_ ?_)
  · intro value after done
    rw [done] at applied
    exact ⟨⟨rfl, [call], applied⟩, fun _ _ =>
      submitted value after (Store.perform_ok_iff.mp done)⟩
  · intro cause _
    exact ⟨⟨rfl, [], rfl⟩, fun _ never => by cases never⟩
  · intro operation _
    exact ⟨⟨rfl, [], rfl⟩, fun _ never => by cases never⟩

theorem acknowledgeRemote_submits (order : Order) (remote : ExchangeOrder) :
    (setup.acknowledgeRemote order remote now).Ensures engine (setup.Submits now engine order.id) :=
  submits_of_call (.acknowledge order.id order.exchange remote.exchangeOrderId
    remote.clientOrderId) rfl fun _ _ => Terms.acknowledgeOrder_submitted

theorem Submits.after_kept {middle after : Engine}
    {result : Except Interruption (Except SettlementError SubmissionOutcome)}
    (kept : engine.KeepsData middle) (submits : setup.Submits now middle orderId result after) :
    setup.Submits now engine orderId result after :=
  ⟨kept.settlesOn submits.1, submits.2⟩

/-- A submission that ends without an outcome leaves the data alone. -/
theorem KeepsData.submits {after : Engine}
    {result : Except Interruption (Except SettlementError SubmissionOutcome)}
    (kept : engine.KeepsData after) (failed : ∀ outcome, result ≠ .ok (.ok outcome)) :
    setup.Submits now engine orderId result after :=
  ⟨kept.settlesOn_self, fun outcome given => absurd given (failed outcome)⟩

theorem findRemote_keepsData (order : Order) :
    (setup.findRemote order).Ensures engine fun _ after => engine.KeepsData after := by
  unfold findRemote
  refine ensures_bind ((setup.ask_keepsData _ _).mono ?_)
  intro result asked kept
  cases result with
  | error => exact kept
  | ok answer =>
      dsimp only
      split
      · exact kept
      · exact kept
      · exact kept

theorem settleRefusal_submits (order : Order) (code : Option Int) (details : String) :
    (setup.settleRefusal order code details now).Ensures engine
      (setup.Submits now engine order.id) := by
  unfold settleRefusal
  refine ensures_bind ((setup.findRemote_keepsData order).mono ?_)
  intro result asked kept
  cases result with
  | error => exact KeepsData.submits kept fun _ => nofun
  | ok answer =>
      cases answer with
      | error => exact KeepsData.submits kept fun _ => nofun
      | ok found =>
          cases found with
          | some remote =>
              exact (setup.acknowledgeRemote_submits order remote).mono fun _ _ submits =>
                submits.after_kept kept
          | none =>
              exact Ensures.mono (submits_of_call (.reject order.id (refusalText code details)) rfl
                fun _ _ => Terms.rejectOrder_submitted) fun _ _ submits => submits.after_kept kept

/-- A submission ends with an outcome only if the order is no longer new. -/
theorem submitOrder_submits (orderId : String) :
    (setup.submitOrder orderId now).Ensures engine (setup.Submits now engine orderId) := by
  unfold submitOrder
  refine ensures_bind (perform_ensures ?_ ?_ ?_)
  · intro order after done
    have looked := Store.perform_ok_iff.mp done
    simp only [Terms.findOrder, Work.bind_ok, Work.start_ok, Store.existingOrder_ok] at looked
    obtain ⟨_, _, ⟨-, rfl⟩, found, rfl⟩ := looked
    obtain ⟨member, rfl⟩ := Store.order?_some found
    by_cases new : order.status = .new
    · simp only [new, ne_eq, not_true, if_false]
      refine ensures_bind ((setup.ask_keepsData _ _).mono ?_)
      intro result asked kept
      cases result with
      | error => exact KeepsData.submits kept fun _ => nofun
      | ok answer =>
          dsimp only
          split
          · exact (setup.acknowledgeRemote_submits order _).mono fun _ _ submits =>
              submits.after_kept kept
          · exact (setup.settleRefusal_submits order _ _).mono fun _ _ submits =>
              submits.after_kept kept
          · exact KeepsData.submits kept fun _ => nofun
    · simp only [ne_eq, new, not_false_eq_true, if_true]
      exact ⟨⟨rfl, [], rfl⟩, fun _ _ => ⟨order, member, rfl, new⟩⟩
  · intro cause _
    exact KeepsData.submits ⟨rfl, rfl⟩ fun _ => nofun
  · intro operation _
    exact KeepsData.submits ⟨rfl, rfl⟩ fun _ => nofun

variable {worker : WorkerSetup}

/-- What dealing with a message leaves: the store is some calls further, and the message is
acknowledged only if it announces no order or one that is no longer new. -/
def Handles (setup : Setup) (now : Instant) (worker : WorkerSetup) (message : Message)
    (engine after : Engine) : Prop :=
  (∃ calls, after.store = engine.store.afterCalls setup.terms now calls) ∧
    (after.broker = engine.broker ∨
      after.broker =
          (engine.broker.acknowledge worker.topic worker.group (toString message.id)).2 ∧
        ∀ id, announcedOrder? message.payload = some id → after.store.Submitted id)

theorem handleMessage_handles (report : SubmissionReport) (message : Message) :
    (setup.handleMessage worker now report message).Ensures engine fun _ after =>
      setup.Handles now worker message engine after := by
  unfold handleMessage
  cases announced : announcedOrder? message.payload with
  | none =>
      refine ensures_bind (ensures_modify ⟨⟨[], rfl⟩, .inr ⟨rfl, ?_⟩⟩)
      intro id names
      rw [announced] at names
      contradiction
  | some orderId =>
      dsimp only
      refine ensures_bind ((setup.submitOrder_submits orderId).mono ?_)
      rintro result after ⟨⟨broker, settles⟩, submitted⟩
      cases result with
      | error => exact ⟨settles, .inl broker⟩
      | ok answer =>
          cases answer with
          | error => exact ⟨settles, .inl broker⟩
          | ok outcome =>
              refine ensures_bind (ensures_modify ⟨settles, .inr ⟨?_, ?_⟩⟩)
              · rw [broker]
                rfl
              · intro id names
                rw [announced] at names
                obtain rfl := Option.some.inj names
                exact submitted outcome rfl

/-- What calls of settlement keep, and acknowledging a message that announces no order or one that
is no longer new, is kept by handling messages. -/
theorem handleMessages_keeps (holds : Store → Broker → Prop) {messages : List Message}
    (settles : ∀ store broker (call : Call), holds store broker →
      holds (call.apply setup.terms now store) broker)
    (acknowledges : ∀ store broker, ∀ message ∈ messages,
      (∀ id, announcedOrder? message.payload = some id → store.Submitted id) →
      holds store broker →
      holds store (broker.acknowledge worker.topic worker.group (toString message.id)).2)
    (report : SubmissionReport) (held : holds engine.store engine.broker) :
    (messages.foldlM (setup.handleMessage worker now) report).Ensures engine fun _ after =>
      holds after.store after.broker := by
  have settled : ∀ (calls : List Call) store broker, holds store broker →
      holds (store.afterCalls setup.terms now calls) broker := by
    intro calls
    induction calls with
    | nil => exact fun _ _ held => held
    | cons call rest ih => exact fun _ _ held => ih _ _ (settles _ _ call held)
  induction messages generalizing report engine with
  | nil => exact held
  | cons message rest ih =>
      rw [List.foldlM_cons]
      refine ensures_bind ((setup.handleMessage_handles report message).mono ?_)
      rintro result after ⟨⟨calls, store⟩, broker⟩
      have later : holds after.store after.broker := by
        have settled := settled calls _ _ held
        rw [← store] at settled
        obtain same | ⟨acknowledged, submitted⟩ := broker
        · rw [same]
          exact settled
        · rw [acknowledged]
          exact acknowledges _ _ message List.mem_cons_self submitted settled
      cases result with
      | error => exact later
      | ok report =>
          exact ih (fun store broker other member => acknowledges store broker other
            (List.mem_cons_of_mem _ member)) report later

/-- What a pass of a worker keeps: what receiving messages brings about, and handling them keeps. -/
theorem submitBatch_induction (holds : Store → Broker → Prop)
    (start : holds engine.store (engine.broker.receive worker.topic worker.group worker.batch
      worker.block none).2.2)
    (settles : ∀ store broker (call : Call), holds store broker →
      holds (call.apply setup.terms now store) broker)
    (acknowledges : ∀ store broker, ∀ message ∈ (engine.broker.receive worker.topic worker.group
        worker.batch worker.block none).1,
      (∀ id, announcedOrder? message.payload = some id → store.Submitted id) →
      holds store broker →
      holds store (broker.acknowledge worker.topic worker.group (toString message.id)).2) :
    (setup.submitBatch worker now).Ensures engine fun _ after =>
      holds after.store after.broker := by
  unfold submitBatch
  refine ensures_get_bind ?_
  refine ensures_set_bind ?_
  refine ensures_bind ((Engine.wait_keepsData _).mono ?_)
  intro result waited kept
  have held : holds waited.store waited.broker := by
    rw [kept.1, kept.2]
    exact start
  cases result with
  | error => exact held
  | ok => exact handleMessages_keeps holds settles acknowledges _ held

end Setup

end SpotSettlement
