import SpotSettlement.Proofs.Engine.Cancelling
import SpotSettlement.Proofs.Engine.Replays
import SpotSettlement.Proofs.Engine.StreamTurns

namespace SpotSettlement

/-! # Recovery of what a stream missed

A supervisor asks for a replay when a session does not open, when it ends, and when a fill matches
no order.  Right after it did, an open request that is not too old covers what was missed, be it the
new one or one that was there.  A report that is refused is only counted.
-/

/-- An open request for a recovery replay of our exchange was made within the window. -/
def Setup.Covers (setup : Setup) (now : Instant) (store : Store) : Prop :=
  ∃ request ∈ store.replays, request.connector = setup.exchange ∧ request.trigger = .recovery ∧
    request.status.isOpen = true ∧ now.before setup.dedupeWindow ≤ request.requestedAt

namespace StreamTurn

variable (setup : Setup) (now : Instant) (store : Store)

/-- The turn takes a report that ingestion refuses. -/
def Refused : StreamTurn → Prop
  | .take (.ok (.execution report)) =>
    ∃ cause, (store.perform (setup.terms.processFill report now)).1 = .error (.refused cause)
  | .take (.ok (.status report)) =>
    ∃ cause, (store.perform (setup.terms.processStatus report now)).1 = .error (.refused cause)
  | _ => False

/-- The turn deals with a failure of the stream: a session that is over or did not open, a fill that
matches no order, or a report that is refused. -/
def Fails : StreamTurn → Prop
  | .broken .. => True
  | .take (.ok (.execution report)) =>
    (store.perform (setup.terms.processFill report now)).1 = .ok .unmapped ∨
      Refused setup now store (.take (.ok (.execution report)))
  | turn => Refused setup now store turn

end StreamTurn

open Activity

namespace Setup

variable {setup : Setup} {now : Instant} {engine : Engine} {store after : Store}

theorem covers_congr (same : after.replays = store.replays) :
    setup.Covers now after ↔ setup.Covers now store := by
  rw [Covers, Covers, same]

theorem covers_of_standsFor {id : String} {reason requestedBy : Option String}
    {existing : ReplayRequest} (member : existing ∈ store.replays)
    (stands : Store.standsFor setup.dedupeWindow
      (.pending id setup.exchange .recovery reason requestedBy now) existing = true) :
    setup.Covers now store := by
  simp only [Store.standsFor, Bool.and_eq_true, beq_iff_eq, decide_eq_true_eq] at stands
  obtain ⟨⟨⟨connector, trigger⟩, isOpen⟩, recent⟩ := stands
  exact ⟨existing, member, connector, trigger, isOpen, recent⟩

theorem covers_withNewReplay (bounded : Instant.first ≤ now) {id : String}
    {reason requestedBy : Option String} :
    setup.Covers now (store.withNewReplay
      (.pending id setup.exchange .recovery reason requestedBy now)) :=
  ⟨_, List.mem_append_right _ List.mem_cons_self, rfl, rfl, rfl,
    Instant.before_le bounded setup.dedupeWindow⟩

/-- A supervisor that asks for a replay goes on, and what was missed is covered. -/
theorem requestRecovery_covers (available : engine.store.connectorOutage = none)
    (bounded : Instant.first ≤ now) (reason : String) :
    (setup.requestRecovery reason now).Ensures engine fun result after =>
      result = .ok () ∧ setup.Covers now after.store ∧ after.store.connectorOutage = none := by
  refine ensures_bind (Engine.enqueueReplay_ensures (fun queued store done => ?_) ?_)
  · obtain ⟨_, _, rfl, rfl, -, ⟨existing, member, stands, -, rfl⟩ | ⟨-, -, rfl⟩⟩ :=
      Store.askReplay_cases done
    · exact ⟨rfl, covers_of_standsFor member stands, available⟩
    · exact ⟨rfl, covers_withNewReplay bounded, available⟩
  · intro problem outage
    rw [available] at outage
    contradiction

theorem recordBreak_covers (available : engine.store.connectorOutage = none)
    (bounded : Instant.first ≤ now) (state : WebsocketState) (attempts : Nat)
    (code message : String) :
    (setup.recordBreak state attempts code message now).Ensures engine fun result after =>
      result = .ok () ∧ setup.Covers now after.store ∧ after.store.connectorOutage = none := by
  unfold recordBreak
  refine ensures_bind (Engine.updateHealth_ensures fun rows => ?_)
  refine requestRecovery_covers ?_ bounded message
  exact available

/-- A report that is refused is counted, and leaves the requests alone. -/
theorem countApplyError_keepsReplays (cause : SettlementError) :
    (countApplyError cause now).Ensures engine fun result after =>
      result = .ok () ∧ engine.store.KeepsReplays after.store :=
  Engine.updateHealth_ensures fun _ => ⟨rfl, ⟨rfl, rfl, Nat.le_refl _⟩⟩

theorem streamFill_refused {report : ExecutionReport} {cause : SettlementError}
    (refused : (engine.store.perform (setup.terms.processFill report now)).1 =
      .error (.refused cause)) :
    (setup.streamFill report now).Ensures engine fun result after =>
      result = .ok () ∧ engine.store.KeepsReplays after.store :=
  ensures_bind (Engine.perform_ensures_refused (Store.perform_error_iff.mp refused)
    (countApplyError_keepsReplays cause))

theorem streamStatus_refused {report : StatusReport} {cause : SettlementError}
    (refused : (engine.store.perform (setup.terms.processStatus report now)).1 =
      .error (.refused cause)) :
    (setup.streamStatus report now).Ensures engine fun result after =>
      result = .ok () ∧ engine.store.KeepsReplays after.store :=
  ensures_bind (Engine.perform_ensures_refused (Store.perform_error_iff.mp refused)
    (countApplyError_keepsReplays cause))

theorem streamFill_unmapped {report : ExecutionReport}
    (available : engine.store.connectorOutage = none) (bounded : Instant.first ≤ now)
    (unmapped : (engine.store.perform (setup.terms.processFill report now)).1 = .ok .unmapped) :
    (setup.streamFill report now).Ensures engine fun result after =>
      result = .ok () ∧ setup.Covers now after.store := by
  have done := Store.perform_ok unmapped
  have kept := (Terms.processFill_effect done).step.keepsReplays
  refine ensures_bind (Engine.perform_ensures_done (Store.perform_ok_iff.mpr done) ?_)
  refine ensures_bind (Engine.updateHealth_ensures fun rows => ?_)
  refine (requestRecovery_covers ?_ bounded _).mono fun _ _ covered => ⟨covered.1, covered.2.1⟩
  exact kept.connectorOutage.trans available

/-- Whatever a turn comes to, the rows of connectors can be reached as before. -/
theorem requestRecovery_keepsOutage (reason : String) :
    (setup.requestRecovery reason now).Ensures engine fun _ after =>
      after.store.connectorOutage = engine.store.connectorOutage := by
  refine ensures_bind (Engine.enqueueReplay_ensures (fun queued store done => ?_) fun _ _ => rfl)
  obtain ⟨_, _, rfl, rfl, -, ⟨_, -, -, -, rfl⟩ | ⟨-, -, rfl⟩⟩ := Store.askReplay_cases done
  · rfl
  · rfl

theorem updateHealth_keepsOutage {change : ConnectorHealth → ConnectorHealth} :
    (Engine.updateHealth change).Ensures engine fun _ after =>
      after.store.connectorOutage = engine.store.connectorOutage :=
  Engine.updateHealth_keepsReplays.mono fun _ _ kept => kept.connectorOutage

theorem streamFill_keepsOutage (report : ExecutionReport) :
    (setup.streamFill report now).Ensures engine fun _ after =>
      after.store.connectorOutage = engine.store.connectorOutage := by
  refine ensures_bind (Engine.perform_ensures ?_ (fun _ _ => updateHealth_keepsOutage)
    fun _ _ => rfl)
  intro outcome after done
  have kept := (Terms.processFill_effect (Store.perform_ok_iff.mp done)).step.keepsReplays
  refine ensures_bind (updateHealth_keepsOutage.mono ?_)
  intro result middle same
  have reached := same.trans kept.connectorOutage
  cases result with
  | error => exact reached
  | ok =>
      dsimp only
      split
      · exact (requestRecovery_keepsOutage _).mono fun _ _ later => later.trans reached
      · exact reached

theorem streamStatus_keepsOutage (report : StatusReport) :
    (setup.streamStatus report now).Ensures engine fun _ after =>
      after.store.connectorOutage = engine.store.connectorOutage := by
  refine ensures_bind (Engine.perform_ensures ?_ (fun _ _ => updateHealth_keepsOutage)
    fun _ _ => rfl)
  intro outcome after done
  exact (Terms.processStatus_effect
    (Store.perform_ok_iff.mp done)).step.keepsReplays.connectorOutage

theorem doTurn_keepsOutage (turn : StreamTurn) :
    (setup.doTurn now turn).Ensures engine fun _ after =>
      after.store.connectorOutage = engine.store.connectorOutage := by
  cases turn with
  | record state attempts =>
      rw [doTurn]
      exact updateHealth_keepsOutage
  | broken state attempts code message =>
      rw [doTurn]
      refine ensures_bind (updateHealth_keepsOutage.mono ?_)
      intro result middle same
      cases result with
      | error => exact same
      | ok => exact (requestRecovery_keepsOutage message).mono fun _ _ later => later.trans same
  | take reading =>
      rw [doTurn]
      cases reading with
      | error error =>
          rw [take]
          exact updateHealth_keepsOutage
      | ok event =>
          cases event with
          | ignored => exact rfl
          | status report => exact streamStatus_keepsOutage report
          | execution report => exact streamFill_keepsOutage report

/-- A report that is refused is only counted. -/
theorem doTurn_refused {turn : StreamTurn} (refused : turn.Refused setup now engine.store) :
    (setup.doTurn now turn).Ensures engine fun result after =>
      result = .ok () ∧ engine.store.KeepsReplays after.store := by
  cases turn with
  | record | broken => exact refused.elim
  | take reading =>
      cases reading with
      | error => exact refused.elim
      | ok event =>
          cases event with
          | ignored => exact refused.elim
          | status report =>
              obtain ⟨cause, refused⟩ := refused
              exact streamStatus_refused refused
          | execution report =>
              obtain ⟨cause, refused⟩ := refused
              exact streamFill_refused refused

/-- Every other failure makes the supervisor ask for a replay. -/
theorem doTurn_covers {turn : StreamTurn} (available : engine.store.connectorOutage = none)
    (bounded : Instant.first ≤ now) (failed : turn.Fails setup now engine.store)
    (other : ¬turn.Refused setup now engine.store) :
    (setup.doTurn now turn).Ensures engine fun result after =>
      result = .ok () ∧ setup.Covers now after.store := by
  cases turn with
  | record => exact failed.elim
  | broken state attempts code message =>
      rw [doTurn]
      exact (recordBreak_covers available bounded state attempts code message).mono
        fun _ _ covered => ⟨covered.1, covered.2.1⟩
  | take reading =>
      cases reading with
      | error => exact failed.elim
      | ok event =>
          cases event with
          | ignored => exact failed.elim
          | status report => exact absurd failed other
          | execution report =>
              exact streamFill_unmapped available bounded (failed.resolve_right other)

end Setup

inductive SupervisorEvent where
  /-- The supervisor takes a turn. -/
  | turn (turn : StreamTurn) (now : Instant)
  /-- Something else becomes of the store. -/
  | besides (other : Store)

namespace Engine

/-- Nothing else keeps the rows of connectors from being reached. -/
def supervisorStep (setup : Setup) (engine : Engine) : SupervisorEvent → Engine
  | .turn turn now => ((setup.doTurn now turn).run.run engine).2
  | .besides other =>
    if other.connectorOutage = none then { engine with store := other } else engine

def supervised (setup : Setup) (engine : Engine) (events : List SupervisorEvent) : Engine :=
  events.foldl (supervisorStep setup) engine

theorem supervised_available (setup : Setup) {engine : Engine}
    (available : engine.store.connectorOutage = none) (events : List SupervisorEvent) :
    (engine.supervised setup events).store.connectorOutage = none := by
  induction events generalizing engine with
  | nil => exact available
  | cons event rest ih =>
      refine ih ?_
      cases event with
      | turn turn now =>
          refine Eq.trans ?_ available
          exact setup.doTurn_keepsOutage turn
      | besides other =>
          rw [supervisorStep]
          split
          · assumption
          · exact available

/-- A supervisor that is not interrupted comes to where its turns lead. -/
theorem supervise_supervised (setup : Setup) (supervisor : Setup.SupervisorSetup)
    (sessions : List Setup.SessionScript) (now : Instant) (engine : Engine) :
    (setup.supervise supervisor sessions now).Ensures engine fun result after =>
      result = .ok () → after = engine.supervised setup
        ((Setup.turns supervisor sessions).map (.turn · now)) := by
  rw [setup.supervise_eq, List.forM_eq_forM]
  induction Setup.turns supervisor sessions generalizing engine with
  | nil => exact fun _ => rfl
  | cons turn rest ih =>
      rw [List.forM_cons]
      refine ensures_bind ?_
      unfold Activity.Ensures
      cases taken : ((setup.doTurn now turn).run.run engine).1 with
      | error => exact nofun
      | ok => exact ih _

/-- Right after a supervisor has dealt with a failure of the stream, an open request covers it if
the failure was not that a report was refused.  A report that is refused leaves the requests as they
are, so then only a request that was there before covers it. -/
theorem recovery_covers_unless_refused (setup : Setup) {engine : Engine}
    (available : engine.store.connectorOutage = none) (events : List SupervisorEvent)
    {now : Instant} (bounded : Instant.first ≤ now) {turn : StreamTurn}
    (failed : turn.Fails setup now (engine.supervised setup events).store) :
    let before := engine.supervised setup events
    let ended := (setup.doTurn now turn).run.run before
    ended.1 = .ok () ∧
      (setup.Covers now ended.2.store ↔
        ¬turn.Refused setup now before.store ∨ setup.Covers now before.store) ∧
      (turn.Refused setup now before.store →
        ended.2.store.replays = before.store.replays) := by
  intro before ended
  have reachable : before.store.connectorOutage = none :=
    supervised_available setup available events
  by_cases refused : turn.Refused setup now before.store
  · obtain ⟨goesOn, kept⟩ := Setup.doTurn_refused refused
    refine ⟨goesOn, ?_, fun _ => kept.replays⟩
    rw [Setup.covers_congr kept.replays]
    exact ⟨.inr, fun either => either.resolve_left (absurd refused)⟩
  · obtain ⟨goesOn, covered⟩ := Setup.doTurn_covers reachable bounded failed refused
    exact ⟨goesOn, ⟨fun _ => .inl refused, fun _ => covered⟩, fun given => absurd given refused⟩

end Engine

namespace Sample

def follower : Setup.SupervisorSetup := ⟨.ofSeconds 60, {}⟩

/-- A session that reports a trade, before the supervisor is told to stop. -/
def session : Setup.SessionScript where
  events := [.ok (.execution (trade none))]
  ending := .stopped

def waiting : Engine := { engine with store := .reached placed }

def followed : Except Interruption Unit × Engine :=
  (setup.supervise follower [session] start).run.run waiting

def connecting : List SupervisorEvent :=
  [.turn (.record .connecting 0) start, .turn (.record .up 0) start]

def closing : StreamTurn := .broken .degraded 0 "STREAM_CLOSED" "stream closed by server"

end Sample

namespace Engine

/-- When a session ends that was open, what it missed is covered. -/
theorem sample_break_is_covered :
    Sample.waiting.store.connectorOutage = none ∧ Instant.first ≤ Sample.start ∧
      Sample.setup.Covers Sample.start ((Sample.setup.doTurn Sample.start Sample.closing).run.run
        (Sample.waiting.supervised Sample.setup Sample.connecting)).2.store := by
  have available : Sample.waiting.store.connectorOutage = none := by decide +kernel
  have bounded : Instant.first ≤ Sample.start := by decide
  have failed : ∀ store, Sample.closing.Fails Sample.setup Sample.start store := fun _ => trivial
  have other : ∀ store, ¬Sample.closing.Refused Sample.setup Sample.start store := fun _ => id
  refine ⟨available, bounded, ?_⟩
  refine (recovery_covers_unless_refused Sample.setup available Sample.connecting bounded
    (failed _)).2.1.mpr ?_
  exact .inl (other _)

/-- A trade that the order cannot take yet is refused, and no one asks for a replay. -/
theorem sample_refused_trade_is_not_covered :
    StreamTurn.Fails Sample.setup Sample.start Sample.waiting.store
        (.take (.ok (.execution (Sample.trade none)))) ∧
      Sample.followed.1 = .ok () ∧ Sample.followed.2.health.stream.errors = 1 ∧
      Sample.followed.2.store.replays = [] ∧
      ¬Sample.setup.Covers Sample.start Sample.followed.2.store := by
  have refused : StreamTurn.Refused Sample.setup Sample.start Sample.waiting.store
      (.take (.ok (.execution (Sample.trade none)))) := by
    unfold StreamTurn.Refused
    decide +kernel
  have goesOn : Sample.followed.1 = .ok () := by decide +kernel
  have counted : Sample.followed.2.health.stream.errors = 1 := by decide +kernel
  have nothing : Sample.followed.2.store.replays = [] := by decide +kernel
  refine ⟨Or.inr refused, goesOn, counted, nothing, fun covered => ?_⟩
  rw [Setup.Covers, nothing] at covered
  obtain ⟨request, member, -⟩ := covered
  exact List.not_mem_nil member

end Engine

end SpotSettlement
