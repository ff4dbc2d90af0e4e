import SpotSettlement.Exchange.Error
import SpotSettlement.Power
import SpotSettlement.Time.Instant

namespace SpotSettlement

/-! # Backing off

Delays grow by a factor from one attempt to the next, up to a cap.  A server that is too busy may
itself say how long to wait; its word counts up to the same cap, and against the same number of
attempts.
-/

/-- The power of a double, by repeated squaring. -/
def powerOf (base : Float) : Nat → Nat → Float → Float
  | 0, _, result => result
  | fuel + 1, exponent, result =>
    let result := if exponent % 2 = 1 then result * base else result
    if exponent / 2 = 0 then result else powerOf (base * base) fuel (exponent / 2) result

/-- The initial delay, grown by a factor for each attempt made, in milliseconds. -/
def grownMillis (initialMillis : Nat) (factor : Float) (attempt : Nat) : Float :=
  let exponent := min attempt (wordSize 31 - 1)
  Float.ofNat initialMillis * powerOf factor 32 exponent 1.0

/-- How calls to an exchange are retried. -/
structure RetryPolicy where
  maxRetries : Nat := 5
  initialBackoff : Duration := .ofMillis 200
  maxBackoff : Duration := .ofSeconds 30
  multiplier : Float := 2.0
  /-- The share by which a delay may be spread at random to either side. -/
  jitter : Float := 0.2
  deriving Inhabited

/-- The state of a row of retries: how many have been used up. -/
structure Backoff where
  policy : RetryPolicy
  attempt : Nat := 0
  deriving Inhabited

namespace Backoff

/-- The whole milliseconds of a length of time, as far as a word of 64 bits holds them: what is too
long starts over. -/
def wordMillis (d : Duration) : Nat := d.toMillis % wordSize 64

def capMillis (backoff : Backoff) : Nat := wordMillis backoff.policy.maxBackoff

/-- The next delay that the policy gives, before any random spread. -/
def baseMillis (backoff : Backoff) : Nat :=
  let grown := grownMillis (wordMillis backoff.policy.initialBackoff) backoff.policy.multiplier
    backoff.attempt
  min grown.toUInt64.toNat backoff.capMillis

/-- Uses up one retry with the given delay, if any is left. -/
def spend (backoff : Backoff) (delay : Duration) : Option (Duration × Backoff) :=
  if backoff.policy.maxRetries ≤ backoff.attempt then none
  else some (delay, { backoff with attempt := backoff.attempt + 1 })

/-- The next delay of the policy, as it is if `jitter` is nought: the random spread is not drawn. -/
def next (backoff : Backoff) : Option (Duration × Backoff) :=
  backoff.spend (.ofMillis backoff.baseMillis)

/-- The delay that a server asks for, up to the cap. -/
def nextHinted (backoff : Backoff) (hint : Duration) : Option (Duration × Backoff) :=
  backoff.spend (hint.min (.ofMillis backoff.capMillis))

/-- The delay after a call that was put off, with the server's hint if it gave one. -/
def after (backoff : Backoff) : Option Duration → Option (Duration × Backoff)
  | some hint => backoff.nextHinted hint
  | none => backoff.next

end Backoff

/-- How a broken stream is opened again. -/
structure ReconnectPolicy where
  initialBackoff : Duration := .ofMillis 500
  maxBackoff : Duration := .ofSeconds 60
  multiplier : Float := 2.0
  deriving Inhabited

/-- The state of a row of reconnects: how many were made since the last stable session. -/
structure Reconnect where
  policy : ReconnectPolicy
  attempt : Nat := 0
  deriving Inhabited

namespace Reconnect

/-- The greatest count of attempts; there the count stays. -/
def attemptLimit : Nat := wordSize 32 - 1

/-- The bound of the next delay in milliseconds: the delay itself is drawn at random below it. -/
def boundMillis (reconnect : Reconnect) : Float :=
  let grown := grownMillis reconnect.policy.initialBackoff.toMillis reconnect.policy.multiplier
    reconnect.attempt
  let cap := Float.ofNat reconnect.policy.maxBackoff.toMillis
  if grown.isNaN then cap else if cap < grown then cap else grown

/-- The next delay, for a share of the bound drawn at random between nought and one. -/
def delay (reconnect : Reconnect) (draw : Float) : Duration :=
  let bound := reconnect.boundMillis
  if bound < 1.0 then .ofMillis 0 else .ofMillis (draw * bound).toUInt64.toNat

/-- Counts one more attempt. -/
def advance (reconnect : Reconnect) : Reconnect :=
  { reconnect with attempt := min (reconnect.attempt + 1) attemptLimit }

/-- Starts over after a stable session. -/
def reset (reconnect : Reconnect) : Reconnect := { reconnect with attempt := 0 }

end Reconnect

/-- Makes a call, and makes it again after each delay while it is put off and retries remain.  Once
they are used up the first error is the one that counts; any other error ends the row at once. -/
def retrying {m : Type → Type} [Monad m] {α : Type} (wait : Duration → m Unit)
    (call : m (Except ExchangeError α)) :
    Nat → Backoff → Option ExchangeError → m (Except ExchangeError α)
  | remaining, backoff, first => do
    match ← call with
    | .ok value => return .ok value
    | .error error =>
      if ¬ error.isRateLimited then
        return .error error
      match remaining with
      | 0 => return .error (first.getD error)
      | remaining + 1 =>
        match backoff.after error.retryAfter with
        | none => return .error (first.getD error)
        | some (delay, backoff) =>
          wait delay
          retrying wait call remaining backoff (some (first.getD error))

def RetryPolicy.execute {m : Type → Type} [Monad m] {α : Type} (policy : RetryPolicy)
    (wait : Duration → m Unit) (call : m (Except ExchangeError α)) :
    m (Except ExchangeError α) :=
  retrying wait call policy.maxRetries { policy } none

end SpotSettlement
