import SpotSettlement.Power
import SpotSettlement.Time.Instant

namespace SpotSettlement

/-! # When to publish again

After each failure the delay doubles, up to a cap, and after so many failures a row is set aside.
-/

/-- What is to be done with a row that could not be published. -/
inductive FailureDisposition where
  /-- Try again at a moment; so many attempts have failed. -/
  | retry (attempts : Nat) (nextAttemptAt : Instant)
  /-- Set it aside; so many attempts have failed. -/
  | dead (attempts : Nat)
  deriving DecidableEq, Repr, Inhabited

/-- A doubling delay with a cap and a limit on attempts. -/
structure RetrySchedule where
  baseBackoff : Duration := .ofSeconds 1
  maxBackoff : Duration := .ofSeconds 300
  maxAttempts : Nat := 10
  deriving DecidableEq, Repr, Inhabited

namespace RetrySchedule

/-- The delay after so many failures.  It stops doubling after the thirty-second. -/
def backoff (schedule : RetrySchedule) (attempts : Nat) : Duration :=
  Duration.min ⟨schedule.baseBackoff.nanoseconds * 2 ^ min (attempts - 1) 31⟩ schedule.maxBackoff

/-- What is to be done after the given number of failures. -/
def onFailure (schedule : RetrySchedule) (attempts : Nat) (now : Instant) : FailureDisposition :=
  if schedule.maxAttempts ≤ attempts then .dead attempts
  else .retry attempts (now.after (schedule.backoff attempts))

theorem backoff_le (schedule : RetrySchedule) (attempts : Nat) :
    schedule.backoff attempts ≤ schedule.maxBackoff := by
  unfold backoff Duration.min
  split
  · assumption
  · exact Nat.le_refl _

end RetrySchedule

end SpotSettlement
