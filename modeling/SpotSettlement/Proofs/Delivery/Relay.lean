import SpotSettlement.Proofs.Delivery.Cycles

namespace SpotSettlement

/-! # The relay of the outbox, cycle by cycle

Here a cycle of a dispatcher is one step.  Any attempt to publish may fail in it, and the dispatcher
may stop before a row is published or before it has recorded what came of it.  Between the cycles
settlement adds rows, leases are taken and left behind, leases are returned, and rows that were set
aside are queued again.
-/

/-- What becomes of a row in a cycle: how it gets to the broker, and when that is recorded, unless
the dispatcher stops before. -/
structure Attempt where
  handover : Handover
  recorded : Option Instant

/-- The store with the outbox, and the broker that its rows are taken to. -/
structure Relay where
  store : Store := {}
  broker : Broker := {}

namespace Relay

/-- Publishes the rows that were claimed and records what came of each.  There is no report if the
dispatcher stops. -/
def publishRows (dispatcher : DispatcherSetup) (relay : Relay) (report : DispatchReport) :
    List OutboxRow → List Attempt → Relay × Option DispatchReport
  | [], _ => (relay, some report)
  | _ :: _, [] => (relay, none)
  | row :: rest, attempt :: attempts =>
    let (result, broker) := attempt.handover.publish relay.broker row
    match attempt.recorded with
    | none => ({ relay with broker }, none)
    | some now =>
      match relay.store.perform (dispatcher.settle row result report now) with
      | (.ok report, store) => publishRows dispatcher { store, broker } report rest attempts
      | (.error _, store) => ({ store, broker }, none)

/-- A cycle, with what becomes of the rows in turn. -/
def dispatch (dispatcher : DispatcherSetup) (relay : Relay) (now : Instant)
    (attempts : List Attempt) : Relay × Option DispatchReport :=
  match relay.store.perform (Store.reclaimStale dispatcher.lease now) with
  | (.error _, store) => ({ relay with store }, none)
  | (.ok reclaimed, store) =>
    match store.perform (Store.claimBatch dispatcher.batch now) with
    | (.error _, store) => ({ relay with store }, none)
    | (.ok rows, store) =>
      publishRows dispatcher { relay with store } { reclaimed, claimed := rows.length } rows
        attempts

end Relay

/-- What may happen next. -/
inductive RelayStep where
  /-- Settlement may add rows to the outbox. -/
  | enqueue (request : Request)
  | dispatch (now : Instant) (attempts : List Attempt)
  /-- Rows are claimed, and nothing more is heard of them. -/
  | abandon (limit : Nat) (now : Instant)
  | reclaim (lease : Duration) (now : Instant)
  | requeue (ids : Option (List String)) (now : Instant)
  /-- The broker starts or stops refusing messages. -/
  | refuse (failing : Bool)

namespace Relay

def perform {α : Type} (relay : Relay) (work : Work α) : Relay :=
  { relay with store := (relay.store.perform work).2 }

def step (dispatcher : DispatcherSetup) (relay : Relay) : RelayStep → Relay
  | .enqueue request => { relay with store := request.apply relay.store }
  | .dispatch now attempts => (relay.dispatch dispatcher now attempts).1
  | .abandon limit now => relay.perform (Store.claimBatch limit now)
  | .reclaim lease now => relay.perform (Store.reclaimStale lease now)
  | .requeue ids now => relay.perform (Store.requeueDead ids now)
  | .refuse failing => { relay with broker := { relay.broker with failing } }

def afterAll (dispatcher : DispatcherSetup) (relay : Relay) (run : List RelayStep) : Relay :=
  run.foldl (step dispatcher) relay

def reached (dispatcher : DispatcherSetup) (run : List RelayStep) : Relay :=
  afterAll dispatcher {} run

theorem reached_append (dispatcher : DispatcherSetup) (first second : List RelayStep) :
    reached dispatcher (first ++ second) =
      (reached dispatcher first).afterAll dispatcher second :=
  List.foldl_append

end Relay

open Activity Engine

/-- What the relay has of an engine. -/
def Engine.relay (engine : Engine) : Relay := ⟨engine.store, engine.broker⟩

namespace Relay

def reported? : Except Interruption (Except SettlementError DispatchReport) → Option DispatchReport
  | .ok (.ok report) => some report
  | _ => none

theorem reported?_isSome {result : Except Interruption (Except SettlementError DispatchReport)}
    (reports : (reported? result).isSome) : ∃ report, result = .ok (.ok report) := by
  unfold reported? at reports
  split at reports
  · exact ⟨_, rfl⟩
  · contradiction

/-- The broker gives its answer each time, and it is recorded at once. -/
def answered (now : Instant) (rows : Nat) : List Attempt :=
  List.replicate rows ⟨.answered, some now⟩

theorem publishRows_ensures (dispatcher : DispatcherSetup) (now : Instant) (rows : List OutboxRow)
    (report : DispatchReport) (count : Nat) (enough : rows.length ≤ count) (engine : Engine) :
    (dispatcher.publishRows now report rows).Ensures engine fun result after =>
      engine.relay.publishRows dispatcher report rows (answered now count) =
        (after.relay, reported? result) := by
  induction rows generalizing report count engine with
  | nil => rfl
  | cons row rest ih =>
      obtain ⟨fewer, rfl⟩ : ∃ fewer, count = fewer + 1 := Nat.exists_eq_add_one.mpr (by grind)
      have first : answered now (fewer + 1) = ⟨.answered, some now⟩ :: answered now fewer := rfl
      rw [first]
      unfold DispatcherSetup.publishRows
      refine ensures_bind (publish_ensures row ?_)
      cases handed : engine.broker.publish row.topic row.partitionKey row.payload with
      | mk result broker =>
          have published : Handover.answered.publish engine.relay.broker row = (result, broker) :=
            handed
          refine ensures_bind (perform_ensures ?_ ?_ ?_)
          · intro counted store settled
            have recorded : engine.relay.store.perform
                (dispatcher.settle row result report now) = (.ok counted, store) := settled
            simp only [Relay.publishRows, published, recorded]
            exact ih counted fewer (by grind) _
          · intro cause settled
            have refused : engine.relay.store.perform
                (dispatcher.settle row result report now) = _ := settled
            simp only [Relay.publishRows, published, refused]
            rfl
          · intro operation settled
            have refused : engine.relay.store.perform
                (dispatcher.settle row result report now) = _ := settled
            simp only [Relay.publishRows, published, refused]
            rfl

/-- A cycle of the engine is a step of the relay, in which the broker gives its answers. -/
theorem dispatch_ensures (dispatcher : DispatcherSetup) (engine : Engine) (now : Instant) :
    (dispatcher.dispatch now).Ensures engine fun result after =>
      engine.relay.dispatch dispatcher now (answered now dispatcher.batch) =
        (after.relay, reported? result) := by
  obtain ⟨reclaimed, store, reclaims⟩ : ∃ reclaimed store, engine.store.perform
      (Store.reclaimStale dispatcher.lease now) = (.ok reclaimed, store) := ⟨_, _, rfl⟩
  obtain ⟨rows, after, claims, bound⟩ := store.perform_claimBatch_le dispatcher.batch now
  have relayed : engine.relay.dispatch dispatcher now (answered now dispatcher.batch) =
      publishRows dispatcher ⟨after, engine.broker⟩ { reclaimed, claimed := rows.length } rows
        (answered now dispatcher.batch) := by
    have first : engine.relay.store.perform (Store.reclaimStale dispatcher.lease now) =
        (.ok reclaimed, store) := reclaims
    simp only [Relay.dispatch, first, claims]
    rfl
  rw [relayed]
  refine ensures_bind (perform_ensures_done reclaims ?_)
  refine ensures_bind (perform_ensures_done claims ?_)
  exact publishRows_ensures dispatcher now rows _ _ bound _

end Relay

end SpotSettlement
