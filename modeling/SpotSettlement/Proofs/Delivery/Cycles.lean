import SpotSettlement.Proofs.Delivery.Rows

namespace SpotSettlement

/-! # Cycles of a dispatcher

When nothing comes in between, the events of a dispatcher are its cycle.
-/

/-- Whatever was counted before, a settled row leaves the same store, or is refused. -/
theorem Store.perform_settle_report (store : Store) (dispatcher : DispatcherSetup)
    (copy : OutboxRow) (result : Except BrokerError Unit) (report : DispatchReport)
    (now : Instant) :
    (∃ fresh done after, store.perform (dispatcher.settle copy result {} now) = (.ok fresh, after) ∧
      store.perform (dispatcher.settle copy result report now) = (.ok done, after)) ∨
    ∃ failure, store.perform (dispatcher.settle copy result {} now) = (.error failure, store) ∧
      store.perform (dispatcher.settle copy result report now) = (.error failure, store) := by
  obtain ⟨fresh, first⟩ := settle_eq dispatcher copy result {} now
  obtain ⟨done, second⟩ := settle_eq dispatcher copy result report now
  simp only [first, second, perform, StateT.run_bind]
  cases (changeOutbox copy.id (·.settled dispatcher copy result now)).run store with
  | ok outcome => exact .inl ⟨fresh, done, outcome.2, rfl, rfl⟩
  | error failure => exact .inr ⟨failure, rfl, rfl⟩

open Activity Engine

theorem publish_ensures {engine : Engine} (row : OutboxRow)
    {post : Except Interruption (Except BrokerError Unit) → Engine → Prop}
    (holds : post (.ok (engine.broker.publish row.topic row.partitionKey row.payload).1)
      { engine with
        broker := (engine.broker.publish row.topic row.partitionKey row.payload).2 }) :
    (DispatcherSetup.publish row).Ensures engine post := holds

namespace Delivery

variable {setup : DeliverySetup} {state : Delivery} {dispatcher : Nat}

theorem withPhase_same {phase : DispatchPhase} (same : state.phases dispatcher = phase) :
    state.withPhase dispatcher phase = state := by
  have phases : (fun other => if other = dispatcher then phase else state.phases other) =
      state.phases := by
    funext other
    split
    · next named => rw [named, same]
    · rfl
  exact congrArg (fun phases => { state with phases }) phases

theorem withPhase_withPhase (state : Delivery) (first second : DispatchPhase) :
    (state.withPhase dispatcher first).withPhase dispatcher second =
      state.withPhase dispatcher second := by
  have phases : (fun other => if other = dispatcher then second else
      (state.withPhase dispatcher first).phases other) =
      (state.withPhase dispatcher second).phases := by
    funext other
    simp only [withPhase]
    split <;> rfl
  exact congrArg (fun phases => { state with phases }) phases

/-- The events in which a dispatcher publishes so many rows. -/
def publishing (dispatcher : Nat) (now : Instant) (rows : Nat) : List DeliveryEvent :=
  (List.replicate rows [.publish dispatcher .answered, .report dispatcher now]).flatten

def cycle (setup : DeliverySetup) (dispatcher : Nat) (now : Instant) : List DeliveryEvent :=
  [.reclaim dispatcher now, .claim dispatcher] ++ publishing dispatcher now setup.dispatcher.batch

theorem afterAll_publishing_idle (setup : DeliverySetup) (idle : state.phases dispatcher = .idle)
    (now : Instant) (rows : Nat) :
    state.afterAll setup (publishing dispatcher now rows) = state := by
  induction rows with
  | zero => rfl
  | succ rows ih =>
      have rest : publishing dispatcher now (rows + 1) =
          [.publish dispatcher .answered, .report dispatcher now] ++
            publishing dispatcher now rows := rfl
      rw [rest, afterAll_append]
      have nothing : state.afterAll setup
          [.publish dispatcher .answered, .report dispatcher now] = state := by
        simp only [afterAll, List.foldl_cons, List.foldl_nil, step, idle]
      rw [nothing, ih]

/-- A row is handed to the broker and reported about. -/
theorem afterAll_publish_report {row : OutboxRow} {rest : List OutboxRow}
    {result : Except BrokerError Unit} {broker : Broker}
    (handed : state.broker.publish row.topic row.partitionKey row.payload = (result, broker))
    (now : Instant) :
    (state.withPhase dispatcher (.publishing row rest)).afterAll setup
        [.publish dispatcher .answered, .report dispatcher now] =
      match state.store.perform (setup.dispatcher.settle row result {} now) with
      | (.ok _, store) =>
        ((state.withBroker broker).withStore store).withPhase dispatcher (.ofRows rest)
      | (.error _, store) =>
        ((state.withBroker broker).withStore store).withPhase dispatcher .idle := by
  have first : (state.withPhase dispatcher (.publishing row rest)).step setup
      (.publish dispatcher .answered) =
        (state.withBroker broker).withPhase dispatcher (.reporting row result rest) := by
    have published : Handover.answered.publish
        (state.withPhase dispatcher (.publishing row rest)).broker row = (result, broker) := handed
    simp only [step, withPhase_self, published]
    exact withPhase_withPhase (state.withBroker broker) _ _
  have store : ((state.withBroker broker).withPhase dispatcher
    (.reporting row result rest)).store = state.store := rfl
  simp only [afterAll, List.foldl_cons, List.foldl_nil, first]
  simp only [step, withPhase_self, store]
  cases state.store.perform (setup.dispatcher.settle row result {} now) with
  | mk outcome after =>
      cases outcome <;> exact withPhase_withPhase ((state.withBroker broker).withStore after) _ _

/-- Publishing the rows that a dispatcher has claimed takes it through its events. -/
theorem publishRows_ensures (setup : DeliverySetup) (dispatcher : Nat) (rows : List OutboxRow)
    (report : DispatchReport) (now : Instant) (count : Nat) (enough : rows.length ≤ count)
    (state : Delivery) :
    (setup.dispatcher.publishRows now report rows).Ensures state.engine fun _ engine =>
      (state.withPhase dispatcher (.ofRows rows)).afterAll setup
        (publishing dispatcher now count) = { state with engine }.withPhase dispatcher .idle := by
  induction rows generalizing report count state with
  | nil => exact afterAll_publishing_idle setup (withPhase_self _) now count
  | cons row rest ih =>
      obtain ⟨fewer, rfl⟩ : ∃ fewer, count = fewer + 1 := Nat.exists_eq_add_one.mpr (by grind)
      have events : publishing dispatcher now (fewer + 1) =
          [.publish dispatcher .answered, .report dispatcher now] ++
            publishing dispatcher now fewer := rfl
      simp only [events, afterAll_append, DispatchPhase.ofRows]
      unfold DispatcherSetup.publishRows
      refine ensures_bind (publish_ensures row ?_)
      cases handed : state.broker.publish row.topic row.partitionKey row.payload with
      | mk result broker =>
          rw [afterAll_publish_report handed]
          obtain ⟨_, done, after, first, second⟩ | ⟨failure, first, second⟩ :=
            state.store.perform_settle_report setup.dispatcher row result report now
          · rw [first]
            refine ensures_bind (perform_ensures_done second ?_)
            exact ih done fewer (by grind) _
          · -- The row is gone, which ends the cycle.
            rw [first]
            have ended : ∀ current : Delivery, (current.withPhase dispatcher .idle).afterAll setup
                (publishing dispatcher now fewer) = current.withPhase dispatcher .idle :=
              fun current => afterAll_publishing_idle setup (withPhase_self _) now fewer
            refine ensures_bind (perform_ensures ?_ (fun _ _ => ended _) (fun _ _ => ended _))
            intro value after settled
            exact absurd (Prod.mk.inj (second.symm.trans settled)).1 nofun

/-- A cycle of a dispatcher is the run of its events. -/
theorem dispatch_ensures (idle : state.phases dispatcher = .idle) (now : Instant) :
    (setup.dispatcher.dispatch now).Ensures state.engine fun _ engine =>
      state.afterAll setup (cycle setup dispatcher now) = { state with engine } := by
  obtain ⟨reclaimed, store, reclaims⟩ : ∃ reclaimed store, state.store.perform
      (Store.reclaimStale setup.dispatcher.lease now) = (.ok reclaimed, store) := ⟨_, _, rfl⟩
  obtain ⟨rows, after, claims, bound⟩ := store.perform_claimBatch_le setup.dispatcher.batch now
  have first : state.step setup (.reclaim dispatcher now) =
      (state.withStore store).withPhase dispatcher (.reclaimed now) := by
    simp only [step, idle, reclaims]
  have second : ((state.withStore store).withPhase dispatcher (.reclaimed now)).step setup
      (.claim dispatcher) = (state.withStore after).withPhase dispatcher (.ofRows rows) := by
    have kept : ((state.withStore store).withPhase dispatcher (.reclaimed now)).store = store := rfl
    simp only [step, withPhase_self, kept, claims]
    exact withPhase_withPhase (state.withStore after) _ _
  have events : state.afterAll setup (cycle setup dispatcher now) =
      ((state.withStore after).withPhase dispatcher (.ofRows rows)).afterAll setup
        (publishing dispatcher now setup.dispatcher.batch) := by
    rw [cycle, afterAll_append, ← second, ← first]
    rfl
  rw [events]
  refine ensures_bind (perform_ensures_done reclaims ?_)
  refine ensures_bind (perform_ensures_done claims ?_)
  have published := publishRows_ensures setup dispatcher rows
    { reclaimed, claimed := rows.length } now _ bound (state.withStore after)
  exact published.mono fun _ engine reached => reached.trans (withPhase_same idle)

end Delivery

end SpotSettlement
