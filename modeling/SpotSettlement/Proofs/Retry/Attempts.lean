import Mathlib.Data.List.Basic
import SpotSettlement.Retry.Backoff

namespace SpotSettlement

/-! # Rows of attempts

A call that is put off is made again until something else comes of it, or until the retries are used
up.  How often it is made, what comes of the whole row, and how long each wait is, follows from what
comes of the single calls.  A wait that the server asks for uses up a retry like any other.
-/

/-- The call was put off, since there were too many requests. -/
def PutOff {α : Type} : Except ExchangeError α → Prop
  | .error error => error.isRateLimited = true
  | .ok _ => False

instance {α : Type} : DecidablePred (PutOff : Except ExchangeError α → Prop)
  | .error error => inferInstanceAs (Decidable (error.isRateLimited = true))
  | .ok _ => inferInstanceAs (Decidable False)

section Rows

variable {σ α : Type} {policy : RetryPolicy} {wait : Duration → StateM σ Unit}
  {call : StateM σ (Except ExchangeError α)} {start : σ} {used last : Nat}
  {first : Option ExchangeError} {error : ExchangeError}
  {outcomes : Nat → Except ExchangeError α}

/-- What a row of attempts comes to, by what comes of its first call. -/
theorem retrying_run (remaining : Nat) (backoff : Backoff) (first : Option ExchangeError)
    (state : σ) : (retrying wait call remaining backoff first).run state =
      match call.run state with
      | (.ok value, after) => (.ok value, after)
      | (.error error, after) =>
        if ¬error.isRateLimited then (.error error, after)
        else match remaining with
          | 0 => (.error (first.getD error), after)
          | fewer + 1 =>
            match backoff.after error.retryAfter with
            | none => (.error (first.getD error), after)
            | some (delay, next) => (retrying wait call fewer next (some (first.getD error))).run
                ((wait delay).run after).2 := by
  rw [retrying, StateT.run_bind]
  obtain ⟨outcome, after⟩ := call.run state
  cases outcome with
  | ok value => rfl
  | error error =>
      change StateT.run (ite _ _ _) after = ite _ _ _
      split
      · rfl
      · cases remaining with
        | zero => rfl
        | succ fewer =>
            dsimp only
            cases backoff.after error.retryAfter <;> rfl

theorem retrying_answered {state : σ} (answered : ¬PutOff (call.run state).1) (remaining : Nat)
    (backoff : Backoff) (first : Option ExchangeError) :
    (retrying wait call remaining backoff first).run state = call.run state := by
  rw [retrying_run]
  generalize call.run state = ended at *
  obtain ⟨outcome, after⟩ := ended
  cases outcome with
  | ok value => rfl
  | error error => exact if_pos answered

theorem retrying_exhausted {state : σ} (limited : PutOff (call.run state).1) (backoff : Backoff)
    (first : Option ExchangeError) : (retrying wait call 0 backoff first).run state =
      (first.elim (call.run state).1 .error, (call.run state).2) := by
  rw [retrying_run]
  generalize call.run state = ended at *
  obtain ⟨outcome, after⟩ := ended
  cases outcome with
  | ok value => exact limited.elim
  | error error =>
      refine (if_neg (not_not.mpr limited)).trans ?_
      cases first <;> rfl

namespace RetryPolicy

/-- The wait after a call that was put off, when so many retries have been used up before: what the
server asks for, up to the cap, or what the policy gives. -/
def delayAfter (policy : RetryPolicy) (used : Nat) : Except ExchangeError α → Duration
  | .error (.rateLimited (some hint) _) =>
    hint.min (.ofMillis (Backoff.wordMillis policy.maxBackoff))
  | _ => .ofMillis (Backoff.baseMillis ⟨policy, used⟩)

/-- As long as retries are left, each call that is put off uses up one. -/
theorem after_retryAfter (α : Type) (limited : error.isRateLimited = true)
    (left : used < policy.maxRetries) :
    (⟨policy, used⟩ : Backoff).after error.retryAfter =
      some (policy.delayAfter used (.error error : Except ExchangeError α),
        ⟨policy, used + 1⟩) := by
  cases error with
  | rateLimited hint details =>
      cases hint <;> exact if_neg (Nat.not_le_of_lt left)
  | _ => contradiction

/-- The state in which the call is made when it was put off so many times before. -/
def stateAt (policy : RetryPolicy) (wait : Duration → StateM σ Unit)
    (call : StateM σ (Except ExchangeError α)) (start : σ) : Nat → σ
  | 0 => start
  | used + 1 =>
    let ended := call.run (stateAt policy wait call start used)
    ((wait (policy.delayAfter used ended.1)).run ended.2).2

/-- What comes of the call then. -/
def outcomeAt (policy : RetryPolicy) (wait : Duration → StateM σ Unit)
    (call : StateM σ (Except ExchangeError α)) (start : σ) (used : Nat) : Except ExchangeError α :=
  (call.run (policy.stateAt wait call start used)).1

/-- The number of the last call, from nought: the first that is not put off, if retries last. -/
def lastCall (policy : RetryPolicy) (outcomes : Nat → Except ExchangeError α) : Nat :=
  ((List.range policy.maxRetries).find? fun used => ¬PutOff (outcomes used)).getD policy.maxRetries

/-- What comes of the row: what came of its last call, or of its first if all were put off. -/
def finalOutcome (policy : RetryPolicy) (outcomes : Nat → Except ExchangeError α) :
    Except ExchangeError α :=
  if PutOff (outcomes (policy.lastCall outcomes)) then outcomes 0
  else outcomes (policy.lastCall outcomes)

theorem lastCall_answered (within : last ≤ policy.maxRetries)
    (earlier : ∀ used < last, PutOff (outcomes used)) (answered : ¬PutOff (outcomes last)) :
    policy.lastCall outcomes = last := by
  unfold lastCall
  obtain less | rfl := Nat.lt_or_eq_of_le within
  · have found : (List.range policy.maxRetries).find? (fun used => ¬PutOff (outcomes used)) =
        some last := by
      rw [List.find?_range_eq_some]
      refine ⟨by simpa using answered, List.mem_range.mpr less, ?_⟩
      intro used before
      simpa using earlier used before
    rw [found, Option.getD_some]
  · have none : (List.range policy.maxRetries).find? (fun used => ¬PutOff (outcomes used)) =
        none := by
      rw [List.find?_range_eq_none]
      intro used before
      simpa using earlier used before
    rw [none, Option.getD_none]

theorem lastCall_cases (policy : RetryPolicy) (outcomes : Nat → Except ExchangeError α) :
    policy.lastCall outcomes ≤ policy.maxRetries ∧
      (∀ used < policy.lastCall outcomes, PutOff (outcomes used)) ∧
      (PutOff (outcomes (policy.lastCall outcomes)) →
        policy.lastCall outcomes = policy.maxRetries) := by
  unfold lastCall
  cases search : (List.range policy.maxRetries).find? (fun used => ¬PutOff (outcomes used)) with
  | none =>
      rw [List.find?_range_eq_none] at search
      exact ⟨Nat.le_refl _, fun used before => by simpa using search used before, fun _ => rfl⟩
  | some last =>
      obtain ⟨answered, listed, earlier⟩ := List.find?_range_eq_some.mp search
      refine ⟨Nat.le_of_lt (List.mem_range.mp listed), ?_, fun limited => ?_⟩
      · intro used before
        simpa using earlier used before
      · exact absurd limited (by simpa using answered)

theorem stateAt_succ (policy : RetryPolicy) (wait : Duration → StateM σ Unit)
    (call : StateM σ (Except ExchangeError α)) (start : σ) (used : Nat) :
    policy.stateAt wait call start (used + 1) =
      ((wait (policy.delayAfter used (policy.outcomeAt wait call start used))).run
        (call.run (policy.stateAt wait call start used)).2).2 := rfl

theorem retrying_again (left : used < policy.maxRetries)
    (came : policy.outcomeAt wait call start used = .error error)
    (limited : error.isRateLimited = true) (first : Option ExchangeError) :
    (retrying wait call (policy.maxRetries - used) ⟨policy, used⟩ first).run
        (policy.stateAt wait call start used) =
      (retrying wait call (policy.maxRetries - (used + 1)) ⟨policy, used + 1⟩
        (some (first.getD error))).run (policy.stateAt wait call start (used + 1)) := by
  have remaining : policy.maxRetries - used = policy.maxRetries - (used + 1) + 1 := by omega
  rw [stateAt_succ, came, remaining, retrying_run]
  unfold outcomeAt at came
  generalize call.run (policy.stateAt wait call start used) = ended at *
  obtain ⟨outcome, after⟩ := ended
  obtain rfl : outcome = .error error := came
  simp only [limited, not_true, if_false, after_retryAfter α limited left]

/-- What comes of a row that has come so far, with the first error of it. -/
theorem retrying_of_reached (reached : used ≤ policy.lastCall (policy.outcomeAt wait call start))
    (first : Option ExchangeError) :
    (retrying wait call (policy.maxRetries - used) ⟨policy, used⟩ first).run
        (policy.stateAt wait call start used) =
      (if PutOff (policy.outcomeAt wait call start
            (policy.lastCall (policy.outcomeAt wait call start))) then
          first.elim (policy.outcomeAt wait call start used) .error
        else policy.outcomeAt wait call start (policy.lastCall (policy.outcomeAt wait call start)),
        (call.run (policy.stateAt wait call start
          (policy.lastCall (policy.outcomeAt wait call start)))).2) := by
  obtain ⟨within, earlier, exhausted⟩ :=
    policy.lastCall_cases (policy.outcomeAt wait call start)
  generalize policy.lastCall (policy.outcomeAt wait call start) = last at *
  -- The induction is over the calls that are still to be put off.
  induction gap : last - used generalizing used first with
  | zero =>
      obtain rfl : used = last := by omega
      by_cases limited : PutOff (policy.outcomeAt wait call start used)
      · rw [if_pos limited, exhausted limited, Nat.sub_self]
        rw [exhausted limited] at limited
        exact retrying_exhausted limited _ first
      · rw [if_neg limited]
        exact retrying_answered limited _ _ first
  | succ fewer ih =>
      have further : used < last := by omega
      have limited := earlier used further
      cases came : policy.outcomeAt wait call start used with
      | ok value =>
          rw [came] at limited
          exact limited.elim
      | error error =>
          rw [came] at limited
          rw [retrying_again (by omega) came limited, ih _ further (by omega)]
          cases first <;> rfl

/-- A row of attempts comes to what its calls come to, and ends with its last call. -/
theorem execute_run (policy : RetryPolicy) (wait : Duration → StateM σ Unit)
    (call : StateM σ (Except ExchangeError α)) (start : σ) :
    (policy.execute wait call).run start =
      (policy.finalOutcome (policy.outcomeAt wait call start),
        (call.run (policy.stateAt wait call start
          (policy.lastCall (policy.outcomeAt wait call start)))).2) :=
  retrying_of_reached (Nat.zero_le _) none

end RetryPolicy

end Rows

/-- What is done for a call that may be made again. -/
inductive Effort where
  | call
  | wait (delay : Duration)
  deriving DecidableEq

namespace Effort

variable {α : Type} {policy : RetryPolicy} {outcomes : Nat → Except ExchangeError α}

/-- Makes the call, which has its outcomes one after the other. -/
def make (outcomes : Nat → Except ExchangeError α) :
    StateM (List Effort) (Except ExchangeError α) :=
  fun efforts => (outcomes (efforts.count .call), efforts ++ [.call])

def spend (delay : Duration) : StateM (List Effort) Unit :=
  modify fun efforts => efforts ++ [.wait delay]

/-- Calls that were put off, each with the wait after it. -/
def row (delays : List Duration) : List Effort := delays.flatMap fun delay => [.call, .wait delay]

theorem row_concat (delays : List Duration) (delay : Duration) :
    row (delays ++ [delay]) = row delays ++ [.call] ++ [.wait delay] := by
  simp [row]

theorem count_row (delays : List Duration) : (row delays).count .call = delays.length := by
  induction delays with
  | nil => rfl
  | cons delay rest ih =>
      change List.count .call (.call :: .wait delay :: row rest) = rest.length + 1
      have other : Effort.wait delay ≠ .call := nofun
      rw [List.count_cons_self, List.count_cons_of_ne other, ih]

end Effort

namespace RetryPolicy

variable {α : Type} {policy : RetryPolicy} {outcomes : Nat → Except ExchangeError α}

/-- The waits after the first calls, when these are put off. -/
def delays (policy : RetryPolicy) (outcomes : Nat → Except ExchangeError α) (count : Nat) :
    List Duration :=
  (List.range count).map fun used => policy.delayAfter used (outcomes used)

theorem delays_succ (policy : RetryPolicy) (outcomes : Nat → Except ExchangeError α) (count : Nat) :
    policy.delays outcomes (count + 1) =
      policy.delays outcomes count ++ [policy.delayAfter count (outcomes count)] := by
  rw [delays, List.range_succ, List.map_append, List.map_singleton, delays]

theorem count_row_delays (policy : RetryPolicy) (outcomes : Nat → Except ExchangeError α)
    (count : Nat) : (Effort.row (policy.delays outcomes count)).count .call = count := by
  rw [Effort.count_row, delays, List.length_map, List.length_range]

theorem stateAt_make (policy : RetryPolicy) (outcomes : Nat → Except ExchangeError α) (used : Nat) :
    policy.stateAt Effort.spend (Effort.make outcomes) [] used =
      Effort.row (policy.delays outcomes used) := by
  induction used with
  | zero => rfl
  | succ used ih =>
      have came : policy.outcomeAt Effort.spend (Effort.make outcomes) [] used = outcomes used := by
        rw [outcomeAt, ih]
        exact congrArg outcomes (policy.count_row_delays outcomes used)
      rw [stateAt_succ, came, ih, delays_succ, Effort.row_concat]
      rfl

theorem outcomeAt_make (policy : RetryPolicy) (outcomes : Nat → Except ExchangeError α) :
    policy.outcomeAt Effort.spend (Effort.make outcomes) [] = outcomes := by
  funext used
  rw [outcomeAt, stateAt_make]
  exact congrArg outcomes (policy.count_row_delays outcomes used)

theorem execute_make (policy : RetryPolicy) (outcomes : Nat → Except ExchangeError α) :
    (policy.execute Effort.spend (Effort.make outcomes)).run [] =
      (policy.finalOutcome outcomes,
        Effort.row (policy.delays outcomes (policy.lastCall outcomes)) ++ [.call]) := by
  rw [execute_run, outcomeAt_make, stateAt_make]
  rfl

theorem delayAfter_le (policy : RetryPolicy) (used : Nat) (details : String) :
    policy.delayAfter used (.error (.rateLimited none details) : Except ExchangeError α) ≤
      policy.maxBackoff := by
  have capped : Backoff.baseMillis ⟨policy, used⟩ ≤ policy.maxBackoff.toMillis :=
    Nat.le_trans (Nat.min_le_right _ _) (Nat.mod_le _ _)
  change Backoff.baseMillis ⟨policy, used⟩ * 1000000 ≤ policy.maxBackoff.nanoseconds
  unfold Duration.toMillis at capped
  omega

/-- A call is made again only when it was put off.  The row ends with the first outcome that is
another, if that comes before the retries are used up, and with the first error if it does not.
Each wait is what the server asks for, up to the cap, or else a delay of the policy, which keeps to
the cap before any random spread; either uses up one of the retries. -/
theorem rate_limits_alone_are_retried {policy : RetryPolicy}
    (bounded : policy.maxBackoff.toMillis < wordSize 64)
    (outcomes : Nat → Except ExchangeError α) :
    (∀ last ≤ policy.maxRetries, (∀ used < last, PutOff (outcomes used)) →
      ¬PutOff (outcomes last) →
        (policy.execute Effort.spend (Effort.make outcomes)).run [] =
          (outcomes last, Effort.row (policy.delays outcomes last) ++ [.call])) ∧
    ((∀ used ≤ policy.maxRetries, PutOff (outcomes used)) →
      (policy.execute Effort.spend (Effort.make outcomes)).run [] =
        (outcomes 0, Effort.row (policy.delays outcomes policy.maxRetries) ++ [.call])) ∧
    (∀ last, (Effort.row (policy.delays outcomes last) ++ [Effort.call]).count Effort.call =
      last + 1) ∧
    (∀ used hint details,
      policy.delayAfter used (.error (.rateLimited (some hint) details) : Except ExchangeError α) =
        hint.min (.ofMillis policy.maxBackoff.toMillis)) ∧
    (∀ used details,
      policy.delayAfter used (.error (.rateLimited none details) : Except ExchangeError α) ≤
        policy.maxBackoff) ∧
    (∀ used hint details, (⟨policy, used⟩ : Backoff).after hint =
      if policy.maxRetries ≤ used then none
      else some (policy.delayAfter used
        (.error (.rateLimited hint details) : Except ExchangeError α), ⟨policy, used + 1⟩)) := by
  refine ⟨?_, ?_, ?_, ?_, policy.delayAfter_le, ?_⟩
  · intro last within earlier answered
    rw [execute_make, finalOutcome, lastCall_answered within earlier answered, if_neg answered]
  · intro limited
    obtain ⟨within, -, exhausted⟩ := policy.lastCall_cases outcomes
    have all := limited _ within
    rw [execute_make, finalOutcome, if_pos all, exhausted all]
  · intro last
    rw [List.count_append, count_row_delays, List.count_singleton_self]
  · intro used hint details
    rw [delayAfter, Backoff.wordMillis, Nat.mod_eq_of_lt bounded]
  · intro used hint details
    cases hint <;> rfl

end RetryPolicy

namespace Sample

/-- At most two retries, with waits of at most five milliseconds. -/
def patience : RetryPolicy := { maxRetries := 2, maxBackoff := .ofMillis 5 }

/-- The exchange asks for a minute, then says nothing of how long to wait, then answers. -/
def busyTwice : Nat → Except ExchangeError Nat
  | 0 => .error (.rateLimited (some (.ofSeconds 60)) "slow down")
  | 1 => .error (.rateLimited none "busy")
  | _ => .ok 42

/-- The exchange is busy for good, and asks for a millisecond at first. -/
def busy : Nat → Except ExchangeError Nat
  | 0 => .error (.rateLimited (some (.ofMillis 1)) "slow down")
  | _ => .error (.rateLimited none "busy")

end Sample

namespace RetryPolicy

/-- The third call is answered; if it were not, the first error would count. -/
theorem sample_patience_runs_out :
    (Sample.patience.execute Effort.spend (Effort.make Sample.busyTwice)).run [] =
      (.ok 42, [.call, .wait (.ofMillis 5), .call,
        .wait (Sample.patience.delayAfter 1 (Sample.busyTwice 1)), .call]) ∧
    Sample.patience.delayAfter 1 (Sample.busyTwice 1) ≤ .ofMillis 5 ∧
    (Sample.patience.execute Effort.spend (Effort.make Sample.busy)).run [] =
      (.error (.rateLimited (some (.ofMillis 1)) "slow down"), [.call, .wait (.ofMillis 1), .call,
        .wait (Sample.patience.delayAfter 1 (Sample.busy 1)), .call]) := by
  have bounded : Sample.patience.maxBackoff.toMillis < wordSize 64 := by decide
  obtain ⟨answered, -, -, hinted, capped, -⟩ :=
    rate_limits_alone_are_retried bounded Sample.busyTwice
  have limited := rate_limits_alone_are_retried bounded Sample.busy
  refine ⟨?_, capped 1 "busy", ?_⟩
  · rw [answered 2 (by decide) (by decide) (by decide)]
    have first : Sample.patience.delayAfter 0 (Sample.busyTwice 0) = .ofMillis 5 :=
      (hinted 0 (.ofSeconds 60) "slow down").trans (by decide)
    simp only [delays, List.range_succ, List.range_zero, List.nil_append, List.cons_append,
      List.map_cons, List.map_nil, first, Effort.row]
    rfl
  · have most : Sample.patience.maxRetries = 2 := rfl
    rw [limited.2.1 (by decide), most]
    have first : Sample.patience.delayAfter 0 (Sample.busy 0) = .ofMillis 1 :=
      (limited.2.2.2.1 0 (.ofMillis 1) "slow down").trans (by decide)
    simp only [delays, List.range_succ, List.range_zero, List.nil_append,
      List.cons_append, List.map_cons, List.map_nil, first, Effort.row]
    rfl

end RetryPolicy

end SpotSettlement
