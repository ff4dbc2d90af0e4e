import SpotSettlement.Engine.Stream

namespace SpotSettlement

/-! # A stream followed turn by turn

What a supervisor does comes in turns: it records how the connection stands, takes an event of the
session, or records that a session is over or did not open.  Each turn is done in one go; between
two of them anything else may happen.
-/

/-- What was read from a session. -/
abbrev StreamReading := Except StreamError StreamEvent

/-- The session can go on after the reading. -/
def StreamReading.isReadable : StreamReading → Bool
  | .ok _ => true
  | .error error => error.isRecoverable

namespace Setup

/-- The readings of a session that are taken: those before the first error that ends it. -/
def taken (readings : List StreamReading) : List StreamReading :=
  readings.takeWhile (·.isReadable)

/-- How a session ends, given its readings and how it would end after all of them. -/
def outcomeOf (ending : SessionEnd) (readings : List StreamReading) : SessionOutcome :=
  match readings.dropWhile (·.isReadable) with
  | .error error :: _ => .failed error
  | _ =>
    match ending with
    | .closedByServer => .closedByServer
    | .stopped => .stopped

/-- Takes a reading that the session can go on after. -/
def take (setup : Setup) (now : Instant) : StreamReading → Activity Unit
  | .ok (.execution report) => setup.streamFill report now
  | .ok (.status report) => setup.streamStatus report now
  | .ok .ignored => return ()
  | .error error =>
    Engine.updateHealth fun health => health.recordStreamError error.code error.message now

/-- A session is read by taking its readings one after the other. -/
theorem consume_eq (setup : Setup) (ending : SessionEnd) (now : Instant)
    (readings : List StreamReading) :
    setup.consume ending now readings = do
      (taken readings).forM (setup.take now)
      return outcomeOf ending readings := by
  induction readings with
  | nil => cases ending <;> rfl
  | cons reading rest ih =>
      have goesOn : reading.isReadable = true →
          (do (taken (reading :: rest)).forM (setup.take now)
              return outcomeOf ending (reading :: rest)) =
            (do setup.take now reading; setup.consume ending now rest) := by
        intro readable
        have whole : taken (reading :: rest) = reading :: taken rest :=
          List.takeWhile_cons_of_pos readable
        have later : outcomeOf ending (reading :: rest) = outcomeOf ending rest := by
          unfold outcomeOf
          rw [List.dropWhile_cons_of_pos readable]
        rw [whole, later, ih]
        exact bind_assoc ..
      cases reading with
      | ok event =>
          rw [goesOn rfl]
          cases event <;> rfl
      | error error =>
          rw [consume]
          split
          · next recoverable =>
              rw [goesOn recoverable]
              rfl
          · next fatal =>
              have none : taken (.error error :: rest) = [] := List.takeWhile_cons_of_neg fatal
              have left : (.error error :: rest : List StreamReading).dropWhile (·.isReadable) =
                  .error error :: rest := List.dropWhile_cons_of_neg fatal
              have ended : outcomeOf ending (.error error :: rest) = .failed error := by
                unfold outcomeOf
                rw [left]
              rw [none, ended]
              rfl

end Setup

inductive StreamTurn where
  /-- The state of the connection is recorded. -/
  | record (state : WebsocketState) (attempts : Nat)
  /-- A reading that the session can go on after is taken. -/
  | take (reading : StreamReading)
  /-- A session is over, or did not open. -/
  | broken (state : WebsocketState) (attempts : Nat) (code message : String)

namespace Setup

def doTurn (setup : Setup) (now : Instant) : StreamTurn → Activity Unit
  | .record state attempts => recordConnection state attempts now
  | .take reading => setup.take now reading
  | .broken state attempts code message => setup.recordBreak state attempts code message now

/-- The turns of a supervisor that follows some sessions, and the number of attempts to reconnect
that it comes to. -/
def followTurns (supervisor : SupervisorSetup) :
    Reconnect → List SessionScript → List StreamTurn × Nat
  | reconnect, [] => ([.record .connecting reconnect.attempt], reconnect.attempt)
  | reconnect, session :: rest =>
    match session.refusal with
    | some error =>
      let (turns, attempts) := followTurns supervisor reconnect.advance rest
      (.record .connecting reconnect.attempt ::
        .broken .down reconnect.attempt error.code error.message :: turns, attempts)
    | none =>
      let reading := .record .connecting reconnect.attempt :: .record .up reconnect.attempt ::
        (taken session.events).map .take
      let reconnect :=
        if supervisor.stableAfter ≤ session.lasting then reconnect.reset else reconnect
      let (turns, attempts) := followTurns supervisor reconnect.advance rest
      match outcomeOf session.ending session.events with
      | .stopped => (reading, reconnect.attempt)
      | .closedByServer =>
        (reading ++ .broken .degraded reconnect.attempt "STREAM_CLOSED" "stream closed by server" ::
          turns, attempts)
      | .failed error =>
        (reading ++ .broken .degraded reconnect.attempt error.code error.message :: turns, attempts)

/-- The turns of a supervisor from its start to its end. -/
def turns (supervisor : SupervisorSetup) (sessions : List SessionScript) : List StreamTurn :=
  let (turns, attempts) := followTurns supervisor { policy := supervisor.reconnect } sessions
  turns ++ [.record .down attempts]

theorem follow_eq (setup : Setup) (supervisor : SupervisorSetup) (now : Instant)
    (reconnect : Reconnect) (sessions : List SessionScript) :
    setup.follow supervisor now reconnect sessions = do
      (followTurns supervisor reconnect sessions).1.forM (setup.doTurn now)
      return (followTurns supervisor reconnect sessions).2 := by
  induction sessions generalizing reconnect with
  | nil =>
      rw [follow, followTurns]
      simp only [List.forM_eq_forM, List.forM_cons, List.forM_nil, bind_assoc, pure_bind]
      rfl
  | cons session rest ih =>
      rw [follow, followTurns]
      cases session.refusal with
      | some error =>
          simp only [List.forM_eq_forM, List.forM_cons, bind_assoc, ih]
          rfl
      | none =>
          simp only [consume_eq, ih]
          generalize (if supervisor.stableAfter ≤ session.lasting then reconnect.reset
            else reconnect) = again
          cases outcomeOf session.ending session.events with
          | stopped | closedByServer | failed =>
              simp only [List.forM_eq_forM, List.cons_append, List.forM_cons, List.forM_append,
                List.forM_map, bind_assoc, pure_bind]
              rfl

/-- A supervisor takes its turns one after the other. -/
theorem supervise_eq (setup : Setup) (supervisor : SupervisorSetup) (sessions : List SessionScript)
    (now : Instant) : setup.supervise supervisor sessions now =
      (turns supervisor sessions).forM (setup.doTurn now) := by
  rw [supervise, follow_eq, turns]
  simp only [List.forM_eq_forM, List.forM_append, List.forM_cons, List.forM_nil, bind_assoc,
    pure_bind, bind_pure_unit]
  rfl

end Setup

end SpotSettlement
