import SpotSettlement.Engine.Dispatch
import SpotSettlement.Engine.Replay
import SpotSettlement.Engine.Submission

namespace SpotSettlement

/-! # Running in a loop

Dispatching, catching up and replaying happen at the ticks of a clock, the first of them at once.
A tick is taken late when the activity of the one before lasts longer than the interval; a tick that
is taken more than a few milliseconds late moves all later ones.  Submitting orders goes on without
ticks, and pauses after a failure.  When the time of a loop is over, no tick is taken any more.
-/

/-- How late a tick may be taken without moving the later ones. -/
def tickTolerance : Duration := .ofMillis 5

/-- When the tick is due that follows one that was due at `due` and is taken at `taken`. -/
def nextTick (interval due taken : Duration) : Duration :=
  if taken ≤ due + tickTolerance then due + interval else taken + interval

namespace Engine

/-- Takes the tick that is due, and all that follow it before the end. -/
def ticks (interval finish : Duration) (activity : Activity Unit) : Nat → Duration → Activity Unit
  | 0, _ => return ()
  | fuel + 1, due => do
    let passed := (← get).waited
    let taken : Duration := ⟨max due.nanoseconds passed.nanoseconds⟩
    if finish ≤ taken then
      return ()
    wait ⟨taken.nanoseconds - passed.nanoseconds⟩
    activity
    ticks interval finish activity fuel (nextTick interval due taken)

/-- Runs an activity at every tick for so long a time. -/
def atTicks (interval span : Duration) (activity : Activity Unit) : Activity Unit := do
  let start := (← get).waited
  ticks interval (start + span) activity (span.nanoseconds / interval.nanoseconds + 1) start

end Engine

/-- Dispatches the outbox at every tick. -/
def DispatcherSetup.run (dispatcher : DispatcherSetup) (interval span : Duration) (now : Instant) :
    Activity Unit :=
  Engine.atTicks interval span do
    let _ ← dispatcher.dispatch now

namespace Setup

/-- Catches up with the exchange at every tick. -/
def runPoller (setup : Setup) (interval span : Duration) (now : Instant) : Activity Unit :=
  Engine.atTicks interval span do
    let _ ← setup.runCycle now

/-- Runs the waiting replays one after the other, until none is left or the time is over. -/
def drainReplays (setup : Setup) (finish : Duration) (now : Instant) : Nat → Activity Unit
  | 0 => return ()
  | fuel + 1 => do
    match ← setup.runReplay now with
    | .ok (some _) =>
      if finish ≤ (← get).waited then
        return ()
      setup.drainReplays finish now fuel
    | .ok none | .error _ => return ()

def runReplays (setup : Setup) (interval span : Duration) (now : Instant) : Activity Unit := do
  let finish := (← get).waited + span
  Engine.atTicks interval span do
    setup.drainReplays finish now ((← get).store.replays.length + 1)

/-- Passes of a submission worker, each after the other, with a pause after one that had
failures. -/
def submissionPasses (setup : Setup) (worker : WorkerSetup) (now : Instant) : Nat → Activity Unit
  | 0 => return ()
  | fuel + 1 => do
    Engine.wait ⟨0⟩
    let report ← setup.submitBatch worker now
    if report.failed ≠ 0 then
      Engine.wait worker.failurePause
    setup.submissionPasses worker now fuel

/-- Submits announced orders for so long a time.  Every pass takes time, or acknowledges a
message. -/
def runWorker (setup : Setup) (worker : WorkerSetup) (span : Duration) (now : Instant) :
    Activity Unit := do
  let passes := (← get).broker.messages.length + span.toMillis + 2
  Engine.stoppingAfter span (setup.submissionPasses worker now passes)

end Setup

end SpotSettlement
