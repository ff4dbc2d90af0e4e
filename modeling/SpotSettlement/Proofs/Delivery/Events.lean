import Mathlib.Data.List.Induction
import SpotSettlement.Engine.Dispatch
import SpotSettlement.Engine.Submission
import SpotSettlement.Proofs.Settlement.Runs

namespace SpotSettlement

/-! # Delivery

While settlement writes announcements to the outbox, dispatchers take them to the broker, and a
worker submits the orders that they announce.  Here all of them are one system.  A dispatcher takes
one step for each call of the store or the broker, so that the steps of several dispatchers, of
settlement and of the worker interleave in any order.
-/

/-- What becomes of handing a message to the broker. -/
inductive Handover where
  /-- The broker gives its answer. -/
  | answered
  /-- The message is lost on its way to the broker. -/
  | lost (error : BrokerError)
  /-- The answer is lost on its way back. -/
  | unanswered (error : BrokerError)

/-- What the dispatcher hears, and the broker after the row was handed to it. -/
def Handover.publish (handover : Handover) (broker : Broker) (row : OutboxRow) :
    Except BrokerError Unit × Broker :=
  match handover with
  | .answered => broker.publish row.topic row.partitionKey row.payload
  | .lost error => (.error error, broker)
  | .unanswered error => (.error error, (broker.publish row.topic row.partitionKey row.payload).2)

/-- What a dispatcher is at in its cycle. -/
inductive DispatchPhase where
  | idle
  /-- It has returned leases, and claims rows next. -/
  | reclaimed (now : Instant)
  /-- It publishes a row next; it has claimed it with the rest. -/
  | publishing (row : OutboxRow) (rest : List OutboxRow)
  /-- It reports next what came of publishing a row. -/
  | reporting (row : OutboxRow) (result : Except BrokerError Unit) (rest : List OutboxRow)

namespace DispatchPhase

/-- The phase of a dispatcher that has rows to publish. -/
def ofRows : List OutboxRow → DispatchPhase
  | [] => .idle
  | row :: rest => .publishing row rest

/-- The copies of rows that the dispatcher has still to report about. -/
def held : DispatchPhase → List OutboxRow
  | .idle | .reclaimed _ => []
  | .publishing row rest | .reporting row _ rest => row :: rest

end DispatchPhase

structure DeliverySetup where
  engine : Setup
  /-- The same for all dispatchers. -/
  dispatcher : DispatcherSetup
  group : String
  batch : Nat
  block : Duration

namespace DeliverySetup

/-- The topic to which submitted orders are announced. -/
def topic (setup : DeliverySetup) : String :=
  OrderSubmitted.schema.topic setup.engine.terms.topicPrefix

def worker (setup : DeliverySetup) : Setup.WorkerSetup where
  topic := setup.topic
  group := setup.group
  batch := setup.batch
  block := setup.block

end DeliverySetup

/-- The engine, and the phase of each dispatcher. -/
structure Delivery where
  engine : Engine
  phases : Nat → DispatchPhase

/-- What may happen next. -/
inductive DeliveryEvent where
  /-- An idle dispatcher begins a cycle: it returns leases that have run out. -/
  | reclaim (dispatcher : Nat) (now : Instant)
  /-- It claims a batch of rows. -/
  | claim (dispatcher : Nat)
  /-- It hands the next row to the broker. -/
  | publish (dispatcher : Nat) (handover : Handover)
  /-- It reports what came of that. -/
  | report (dispatcher : Nat) (now : Instant)
  /-- It stops, whatever it was at. -/
  | abandon (dispatcher : Nat)
  /-- Rows that were set aside are queued again. -/
  | requeue (ids : Option (List String)) (now : Instant)
  | settle (call : Call) (now : Instant)
  | seed (account asset : String) (amount : Decimal) (now : Instant)
  /-- Someone else publishes a message. -/
  | arrive (topic key : String) (payload : Json)
  /-- The worker makes one pass, in which the exchange answers as the talk says. -/
  | poll (talk : ExchangeTalk) (stopAt : Option Duration) (now : Instant)
  /-- The broker starts or stops refusing messages. -/
  | refuse (failing : Bool)

/-- The moment at which an event takes place, where it tells one. -/
def DeliveryEvent.moment? : DeliveryEvent → Option Instant
  | .reclaim _ now | .report _ now | .requeue _ now | .settle _ now | .seed _ _ _ now
  | .poll _ _ now => some now
  | .claim _ | .publish .. | .abandon _ | .arrive .. | .refuse _ => none

namespace Delivery

/-- The store is empty, the broker has no messages, and every dispatcher is idle. -/
def start : Delivery := ⟨{ health := default }, fun _ => .idle⟩

abbrev store (state : Delivery) : Store := state.engine.store

abbrev broker (state : Delivery) : Broker := state.engine.broker

def withStore (state : Delivery) (store : Store) : Delivery :=
  { state with engine := { state.engine with store } }

def withBroker (state : Delivery) (broker : Broker) : Delivery :=
  { state with engine := { state.engine with broker } }

def withPhase (state : Delivery) (dispatcher : Nat) (phase : DispatchPhase) : Delivery :=
  { state with
    phases := fun other => if other = dispatcher then phase else state.phases other }

/-- The state after an event.  What a dispatcher cannot do in its phase does nothing. -/
def step (setup : DeliverySetup) (state : Delivery) : DeliveryEvent → Delivery
  | .reclaim dispatcher now =>
    match state.phases dispatcher with
    | .idle =>
      let store := (state.store.perform (Store.reclaimStale setup.dispatcher.lease now)).2
      (state.withStore store).withPhase dispatcher (.reclaimed now)
    | _ => state
  | .claim dispatcher =>
    match state.phases dispatcher with
    | .reclaimed now =>
      match state.store.perform (Store.claimBatch setup.dispatcher.batch now) with
      | (.ok rows, store) => (state.withStore store).withPhase dispatcher (.ofRows rows)
      | (.error _, store) => (state.withStore store).withPhase dispatcher .idle
    | _ => state
  | .publish dispatcher handover =>
    match state.phases dispatcher with
    | .publishing row rest =>
      let (result, broker) := handover.publish state.broker row
      (state.withBroker broker).withPhase dispatcher (.reporting row result rest)
    | _ => state
  | .report dispatcher now =>
    match state.phases dispatcher with
    | .reporting row result rest =>
      match state.store.perform (setup.dispatcher.settle row result {} now) with
      | (.ok _, store) => (state.withStore store).withPhase dispatcher (.ofRows rest)
      | (.error _, store) => (state.withStore store).withPhase dispatcher .idle
    | _ => state
  | .abandon dispatcher => state.withPhase dispatcher .idle
  | .requeue ids now => state.withStore (state.store.perform (Store.requeueDead ids now)).2
  | .settle call now => state.withStore (call.apply setup.engine.terms now state.store)
  | .seed account asset amount now =>
    state.withStore ((Request.seed account asset amount now).apply state.store)
  | .arrive topic key payload => state.withBroker (state.broker.publish topic key payload).2
  | .poll talk stopAt now =>
    let engine := { state.engine with talk, stopAt }
    { state with engine := ((setup.engine.submitBatch setup.worker now).run.run engine).2 }
  | .refuse failing => state.withBroker { state.broker with failing }

def afterAll (setup : DeliverySetup) (state : Delivery) (run : List DeliveryEvent) : Delivery :=
  run.foldl (step setup) state

def reached (setup : DeliverySetup) (run : List DeliveryEvent) : Delivery :=
  start.afterAll setup run

variable {setup : DeliverySetup} {state : Delivery}

theorem afterAll_append (first second : List DeliveryEvent) :
    state.afterAll setup (first ++ second) = (state.afterAll setup first).afterAll setup second :=
  List.foldl_append

theorem reached_concat (run : List DeliveryEvent) (event : DeliveryEvent) :
    reached setup (run ++ [event]) = (reached setup run).step setup event :=
  afterAll_append run [event]

/-- What holds at the start, and is kept by every event of a run, holds after the run. -/
theorem reached_induction (holds : Delivery → Prop) {run : List DeliveryEvent} (base : holds start)
    (kept : ∀ earlier, ∀ event ∈ run, holds (reached setup earlier) →
      holds ((reached setup earlier).step setup event)) : holds (reached setup run) := by
  induction run using List.reverseRecOn with
  | nil => exact base
  | append_singleton run event ih =>
      rw [reached_concat]
      refine kept run event (by simp) (ih ?_)
      intro earlier event member
      exact kept earlier event (List.mem_append_left _ member)

end Delivery

/-! The sample order is announced by two rows, which a dispatcher takes to the broker. -/

namespace Sample

def delivery : DeliverySetup where
  engine := { (default : Setup) with terms }
  dispatcher := {}
  group := "submission"
  batch := 16
  block := ⟨0⟩

def minute (n : Nat) : Instant := { nanoseconds := n * 60000000000 }

/-- A dispatcher has claimed the rows of a new order. -/
def leased : List DeliveryEvent :=
  [.seed "a-1" "USDT" (units 1000) start, .settle (.create purchase) start, .reclaim 0 (minute 0),
    .claim 0]

/-- It has published one of them. -/
def published : List DeliveryEvent := leased ++ [.publish 0 .answered, .report 0 (minute 0)]

end Sample

end SpotSettlement
