import SpotSettlement.Engine.Replay
import SpotSettlement.Stream.Event

namespace SpotSettlement.Setup

/-! # Following the stream

A supervisor keeps a session of the stream open.  It ingests what the session says, counts what
cannot be read or applied, and asks for a replay whenever something may have been missed: a fill
that matches no order, a session that ends, a session that cannot be opened.
-/

/-- How a session ends when all its events have been read. -/
inductive SessionEnd where
  /-- The server closes it. -/
  | closedByServer
  /-- The supervisor is told to stop while it waits for more. -/
  | stopped
  deriving DecidableEq, Repr, Inhabited

/-- One session as it will go. -/
structure SessionScript where
  /-- Why it cannot be opened, if it cannot. -/
  refusal : Option StreamError := none
  events : List (Except StreamError StreamEvent) := []
  ending : SessionEnd := .closedByServer
  /-- How long it lasts. -/
  lasting : Duration := ⟨0⟩

/-- How a session came to its end. -/
inductive SessionOutcome where
  | closedByServer
  | stopped
  | failed (error : StreamError)
  deriving DecidableEq, Repr, Inhabited

structure SupervisorSetup where
  /-- How long a session must last for reconnecting to start over. -/
  stableAfter : Duration
  reconnect : ReconnectPolicy
  deriving Inhabited

/-- Asks for a replay because something may have been missed. -/
def requestRecovery (setup : Setup) (reason : String) (now : Instant) : Activity Unit := do
  let _ ← Engine.enqueueReplay setup.exchange .recovery (some reason)
    (some "stream-supervisor") now setup.dedupeWindow

/-- Counts an event that could not be applied. -/
def countApplyError (cause : SettlementError) (now : Instant) : Activity Unit :=
  Engine.updateHealth fun health => health.recordStreamError "STREAM_APPLY" cause.message now

def streamFill (setup : Setup) (report : ExecutionReport) (now : Instant) : Activity Unit := do
  match ← Engine.perform (setup.terms.processFill report now) with
  | .error cause => countApplyError cause now
  | .ok outcome =>
    Engine.updateHealth fun health => health.recordStreamOutcome outcome now
    if outcome = .unmapped then
      setup.requestRecovery
        ("unmapped stream fill " ++ report.tradeId ++ " on " ++ report.instrument) now

def streamStatus (setup : Setup) (report : StatusReport) (now : Instant) : Activity Unit := do
  match ← Engine.perform (setup.terms.processStatus report now) with
  | .error cause => countApplyError cause now
  | .ok _ => return ()

/-- Reads a session to its end. -/
def consume (setup : Setup) (ending : SessionEnd) (now : Instant) :
    List (Except StreamError StreamEvent) → Activity SessionOutcome
  | [] =>
    match ending with
    | .closedByServer => return .closedByServer
    | .stopped => return .stopped
  | event :: rest => do
    match event with
    | .ok (.execution report) =>
      setup.streamFill report now
      setup.consume ending now rest
    | .ok (.status report) =>
      setup.streamStatus report now
      setup.consume ending now rest
    | .ok .ignored => setup.consume ending now rest
    | .error error =>
      if error.isRecoverable then
        Engine.updateHealth fun health =>
          health.recordStreamError error.code error.message now
        setup.consume ending now rest
      else return .failed error

/-- Records that a session is over, or could not be opened, and asks for a replay. -/
def recordBreak (setup : Setup) (state : WebsocketState) (attempts : Nat) (code message : String)
    (now : Instant) : Activity Unit := do
  Engine.updateHealth fun health =>
    (health.recordWebsocket state attempts now).recordError code message now
  setup.requestRecovery message now

def recordConnection (state : WebsocketState) (attempts : Nat) (now : Instant) : Activity Unit :=
  Engine.updateHealth fun health => health.recordWebsocket state attempts now

/-- Follows the sessions one after the other, until the supervisor is told to stop or waits for a
session that never opens.  Tells how many attempts to reconnect were made last. -/
def follow (setup : Setup) (supervisor : SupervisorSetup) (now : Instant) :
    Reconnect → List SessionScript → Activity Nat
  | reconnect, [] => do
    recordConnection .connecting reconnect.attempt now
    return reconnect.attempt
  | reconnect, session :: rest => do
    recordConnection .connecting reconnect.attempt now
    match session.refusal with
    | some error =>
      setup.recordBreak .down reconnect.attempt error.code error.message now
      setup.follow supervisor now reconnect.advance rest
    | none =>
      recordConnection .up reconnect.attempt now
      let outcome ← setup.consume session.ending now session.events
      let reconnect :=
        if supervisor.stableAfter ≤ session.lasting then reconnect.reset else reconnect
      match outcome with
      | .stopped => return reconnect.attempt
      | .closedByServer =>
        setup.recordBreak .degraded reconnect.attempt "STREAM_CLOSED" "stream closed by server" now
        setup.follow supervisor now reconnect.advance rest
      | .failed error =>
        setup.recordBreak .degraded reconnect.attempt error.code error.message now
        setup.follow supervisor now reconnect.advance rest

/-- Runs a supervisor over the sessions to come. -/
def supervise (setup : Setup) (supervisor : SupervisorSetup) (sessions : List SessionScript)
    (now : Instant) : Activity Unit := do
  let attempts ← setup.follow supervisor now { policy := supervisor.reconnect } sessions
  recordConnection .down attempts now

end SpotSettlement.Setup
