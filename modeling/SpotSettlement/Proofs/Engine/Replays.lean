import SpotSettlement.Engine.Stream
import SpotSettlement.Proofs.Engine.Activities
import SpotSettlement.Proofs.Engine.Routines
import SpotSettlement.Proofs.Settlement.Identities
import SpotSettlement.Proofs.Store.ReplayRuns

namespace SpotSettlement

/-! # Activities and the replay queue

Operators, supervisors and workers take the queue through the events of its runs.  All that
settlement does, and a cycle too, leaves the requests alone.
-/

namespace Store

/-- The replay requests are the same, and can be reached as before; no identifier is taken back. -/
structure KeepsReplays (store after : Store) : Prop where
  replays : after.replays = store.replays
  connectorOutage : after.connectorOutage = store.connectorOutage
  minted : store.minted ≤ after.minted

variable {store middle after : Store} {filling : Option ExecutionReport}
  {operations : List Decimal.Operation} {α : Type} {work : Work α}

theorem KeepsReplays.refl (store : Store) : store.KeepsReplays store := ⟨rfl, rfl, Nat.le_refl _⟩

theorem KeepsReplays.trans (first : store.KeepsReplays middle)
    (second : middle.KeepsReplays after) : store.KeepsReplays after :=
  ⟨second.replays.trans first.replays, second.connectorOutage.trans first.connectorOutage,
    Nat.le_trans first.minted second.minted⟩

theorem FundsMoved.keepsReplays (moved : store.FundsMoved after) : store.KeepsReplays after :=
  ⟨congrArg (·.replays) moved.tables, congrArg (·.connectorOutage) moved.tables, moved.minted⟩

theorem recorded_announced_keepsReplays (store : Store) (event : OrderEvent)
    (rows : List OutboxRow) : store.KeepsReplays ((store.recorded event).announced rows) :=
  ⟨rfl, rfl, Nat.le_trans (Nat.le_succ _) (Nat.le_add_right _ _)⟩

theorem Step.keepsReplays (step : store.Step filling operations after) :
    store.KeepsReplays after := by
  cases step with
  | idle => exact .refl store
  | created _ _ _ reserve _ _ =>
      have placed : ∀ order, store.KeepsReplays (store.withNewOrder order) := fun _ =>
        ⟨rfl, rfl, (minted_lt_freshOrderNumber store).le⟩
      exact ((placed _).trans (Funds.reserveFor_funds reserve).keepsReplays).trans
        (recorded_announced_keepsReplays ..)
  | moved _ _ _ close _ _ =>
      have written : ∀ order, store.KeepsReplays (store.withOrder order) := fun _ =>
        ⟨rfl, rfl, Nat.le_refl _⟩
      exact ((written _).trans (Terms.releaseIfClosed_funds close).keepsReplays).trans
        (recorded_announced_keepsReplays ..)
  | filled _ _ fills =>
      cases fills with
      | applied _ _ _ settle _ _ close _ _ _ _ =>
          have recorded : ∀ execution, store.KeepsReplays (store.withExecution execution) :=
            fun _ => ⟨rfl, rfl, Nat.le_succ _⟩
          have booked : ∀ (settled : Store) transaction order,
              settled.KeepsReplays ((settled.withTransaction transaction).withOrder order) :=
            fun _ _ _ => ⟨rfl, rfl, Nat.le_succ _⟩
          have settled := (recorded _).trans (Funds.settleFill_funds settle).keepsReplays
          exact ((settled.trans (booked ..)).trans
            (Terms.releaseIfClosed_funds close).keepsReplays).trans
              (recorded_announced_keepsReplays ..)

end Store

open Activity

namespace Engine

variable {engine : Engine} {α : Type}

/-- A change of the health stands, and is written down if it can be. -/
theorem updateHealth_ensures {change : ConnectorHealth → ConnectorHealth}
    {post : Except Interruption Unit → Engine → Prop}
    (holds : ∀ rows, post (.ok ()) { engine with
      health := change engine.health
      notes := engine.notes ++ [.health (change engine.health)]
      store := { engine.store with health := rows } }) :
    (updateHealth change).Ensures engine post := by
  unfold updateHealth note
  refine ensures_get_bind (ensures_bind (ensures_modify (ensures_bind (ensures_modify
    (ensures_bind ?_)))))
  cases outage : engine.store.connectorOutage with
  | none =>
      exact perform_ensures_done (Store.perform_ok_iff.mpr (Work.bind_ok.mpr
        ⟨(), engine.store, Store.reachConnectors_ok.mpr ⟨outage, rfl⟩, rfl⟩)) (holds _)
  | some problem =>
      have refused : (Store.saveHealth (change engine.health)).run engine.store =
          .error (.refused (.store (.storage problem))) := by
        simp only [Store.saveHealth, Store.reachConnectors, StateT.run_bind, StateT.run_get,
          pure_bind, outage]
        rfl
      exact perform_ensures_refused refused (holds engine.store.health)

theorem perform_keepsReplays {work : Work α}
    (keeps : ∀ value after, work.run engine.store = .ok (value, after) →
      engine.store.KeepsReplays after) :
    (perform work).Ensures engine fun _ after => engine.store.KeepsReplays after.store :=
  perform_ensures (fun value after done => keeps value after (Store.perform_ok_iff.mp done))
    (fun _ _ => .refl _) fun _ _ => .refl _

theorem updateHealth_keepsReplays {change : ConnectorHealth → ConnectorHealth} :
    (updateHealth change).Ensures engine fun _ after => engine.store.KeepsReplays after.store :=
  updateHealth_ensures fun _ => ⟨rfl, rfl, Nat.le_refl _⟩

end Engine

theorem Deed.perform_keepsReplays (setup : Setup) (deed : Deed) {engine : Engine} :
    (deed.perform setup).Ensures engine fun _ after => engine.store.KeepsReplays after.store := by
  cases deed with
  | findOrder orderId =>
      refine Engine.perform_keepsReplays fun _ _ done => ?_
      simp only [Terms.findOrder, Work.bind_ok, Work.start_ok, Store.existingOrder_ok] at done
      obtain ⟨_, _, ⟨-, rfl⟩, -, rfl⟩ := done
      exact .refl _
  | findAwaiting exchange =>
      refine Engine.perform_keepsReplays fun _ _ done => ?_
      simp only [Terms.awaitingAcknowledgement, Work.bind_ok, Work.start_ok] at done
      obtain ⟨_, _, ⟨-, rfl⟩, done⟩ := done
      rw [← Work.bind_ok, Work.get_bind_ok, Work.pure_ok] at done
      exact done.2 ▸ .refl _
  | acknowledge orderId exchange exchangeOrderId exchangeClientOrderId now =>
      exact Engine.perform_keepsReplays fun _ _ done =>
        (Terms.acknowledgeOrder_effect done).step.keepsReplays
  | cancel orderId account reason now =>
      exact Engine.perform_keepsReplays fun _ _ done =>
        (Terms.cancelOrder_effect done).step.keepsReplays
  | reject orderId reason now =>
      exact Engine.perform_keepsReplays fun _ _ done =>
        (Terms.rejectOrder_effect done).step.keepsReplays
  | ingest report now =>
      exact Engine.perform_keepsReplays fun _ _ done =>
        (Terms.processFill_effect done).step.keepsReplays
  | recordHealth change => exact Engine.updateHealth_keepsReplays
  | wait delay =>
      refine (Engine.wait_keepsData delay).mono fun _ after kept => ?_
      exact kept.1 ▸ .refl _
  | askOrder call => exact Store.KeepsReplays.refl _
  | askOpenOrders => exact Store.KeepsReplays.refl _
  | askTrades instrument since => exact Store.KeepsReplays.refl _

/-- What the deeds of a routine keep is kept by all of it. -/
theorem Routine.run_keepsReplays {α : Type} (setup : Setup) (routine : Routine α)
    {engine : Engine} :
    (routine.run setup).Ensures engine fun _ after => engine.store.KeepsReplays after.store := by
  induction routine generalizing engine with
  | done value => exact Store.KeepsReplays.refl _
  | next deed rest ih =>
      refine ensures_bind ((deed.perform_keepsReplays setup).mono ?_)
      intro result middle kept
      cases result with
      | error => exact kept
      | ok result => exact (ih result).mono fun _ _ later => kept.trans later

theorem Setup.runCycle_keepsReplays (setup : Setup) (now : Instant) {engine : Engine} :
    (setup.runCycle now).Ensures engine fun _ after => engine.store.KeepsReplays after.store := by
  rw [← setup.run_cycleRoutine now]
  exact Routine.run_keepsReplays setup _

/-- To ask for a replay asks the queue, and notes what it did with the wish. -/
theorem Engine.enqueueReplay_ensures {connector : String} {trigger : ReplayTrigger}
    {reason requestedBy : Option String} {requestedAt : Instant} {window : Duration}
    {post : Except Interruption (Except SettlementError ReplayEnqueued) → Engine → Prop}
    {engine : Engine}
    (asked : ∀ queued store,
      (Store.askReplay connector trigger reason requestedBy requestedAt window).run engine.store =
        .ok (queued, store) →
      post (.ok (.ok queued)) { engine with
        store, notes := engine.notes ++ [.replay queued.isDeduplicated trigger reason requestedBy] })
    (refused : ∀ problem, engine.store.connectorOutage = some problem →
      post (.ok (.error (.store (.storage problem)))) engine) :
    (enqueueReplay connector trigger reason requestedBy requestedAt window).Ensures engine post := by
  change (perform (Store.askReplay connector trigger reason requestedBy requestedAt window) >>=
    _).Ensures engine post
  refine ensures_bind ?_
  cases outage : engine.store.connectorOutage with
  | none =>
      obtain ⟨queued, store, done⟩ := Store.askReplay_exists outage connector trigger reason
        requestedBy requestedAt window
      exact perform_ensures_done (Store.perform_ok_iff.mpr done) (asked queued store done)
  | some problem =>
      exact perform_ensures_refused (Store.askReplay_refused outage ..) (refused problem outage)

theorem ReplayRun.step_besides (run : ReplayRun) {after : Store}
    (kept : run.store.KeepsReplays after) :
    run.step (.besides after) = { run with store := after } :=
  if_pos ⟨kept.replays, kept.minted⟩

/-- From where the queue stands, the activity takes it through some of the events that may happen
to it. -/
def Activity.FollowsQueue {α : Type} (activity : Activity α) : Prop :=
  ∀ (engine : Engine) (run : ReplayRun), run.store = engine.store →
    activity.Ensures engine fun _ after => ∃ events, (run.afterAll events).store = after.store

theorem Engine.enqueueReplay_followsQueue (connector : String) (trigger : ReplayTrigger)
    (reason requestedBy : Option String) (requestedAt : Instant) (window : Duration) :
    (enqueueReplay connector trigger reason requestedBy requestedAt window).FollowsQueue := by
  intro engine run same
  refine enqueueReplay_ensures (fun queued store done => ?_) fun _ _ => ⟨[], same⟩
  exact ⟨[.ask connector trigger reason requestedBy requestedAt window],
    ReplayRun.step_ask run (same ▸ done)⟩

namespace Setup

variable (setup : Setup) (now : Instant)

theorem requestReplay_followsQueue (connectors : List String)
    (connector reason requestedBy : Option String) :
    (setup.requestReplay connectors connector reason requestedBy now).FollowsQueue := by
  unfold requestReplay
  dsimp only
  split
  · exact Engine.enqueueReplay_followsQueue _ _ _ _ _ _
  · exact fun engine run same => ⟨[], same⟩

theorem requestRecovery_followsQueue (reason : String) :
    (setup.requestRecovery reason now).FollowsQueue := by
  intro engine run same
  refine ensures_bind ((Engine.enqueueReplay_followsQueue setup.exchange .recovery (some reason)
    (some "stream-supervisor") now setup.dedupeWindow engine run same).mono ?_)
  intro result after follows
  cases result with
  | error => exact follows
  | ok => exact follows

theorem replayResult_closes (result : Except ExchangeError CycleReport) :
    (replayResult result).1.isOpen = false := by
  cases result with
  | error => rfl
  | ok report =>
      rw [replayResult]
      split <;> rfl

/-- A worker claims a request, and completes what it claimed. -/
theorem runReplay_followsQueue : (setup.runReplay now).FollowsQueue := by
  intro engine run same
  refine ensures_bind (Engine.perform_ensures ?_ (fun _ _ => ⟨[], same⟩) fun _ _ => ⟨[], same⟩)
  intro answer claimed done
  have claims := ReplayRun.step_claim run (same ▸ Store.perform_ok_iff.mp done)
  cases answer with
  | none => exact ⟨[.claim setup.exchange now], congrArg (·.store) claims⟩
  | some request =>
      refine ensures_bind ((setup.runCycle_keepsReplays now).mono ?_)
      intro result middle kept
      have cycles := ReplayRun.step_besides
        { run with store := claimed, claimed := run.claimed ++ [request] } kept
      have caughtUp : run.afterAll [.claim setup.exchange now, .besides middle.store] =
          { run with store := middle.store, claimed := run.claimed ++ [request] } := by
        rw [ReplayRun.afterAll, List.foldl_cons, claims, List.foldl_cons, List.foldl_nil]
        exact cycles
      cases result with
      | error => exact ⟨_, congrArg (·.store) caughtUp⟩
      | ok result =>
          have ours : request.id ∈ (run.claimed ++ [request]).map (·.id) := by simp
          have completes := ReplayRun.step_complete
            { run with store := middle.store, claimed := run.claimed ++ [request] }
            (replayResult result).2 now ours (replayResult_closes result)
          refine ensures_bind (Engine.perform_ensures ?_ ?_ ?_)
          · intro _ after done
            refine ⟨[.claim setup.exchange now, .besides middle.store] ++ [.complete request.id
              (replayResult result).1 (replayResult result).2 now], ?_⟩
            rw [ReplayRun.afterAll_append, caughtUp]
            exact (congrArg (·.store) completes).trans (congrArg Prod.snd done)
          · exact fun _ _ => ⟨_, congrArg (·.store) caughtUp⟩
          · exact fun _ _ => ⟨_, congrArg (·.store) caughtUp⟩

end Setup

end SpotSettlement
