import SpotSettlement.Proofs.Delivery.Finality
import SpotSettlement.Proofs.Outbox.Delays

namespace SpotSettlement

/-! # Failures of a row

The failures of a row are counted from its beginning, and anew when it is queued again.  As long as
no lease runs out under a dispatcher that still holds the row, the row counts them all: each puts it
off by the delay of its number, and the last that the schedule allows sets it aside, neither an
earlier one nor a later one.  In any other run a failure goes by the copy of the row that failed.
-/

open OutboxRow

namespace OutboxRow

variable {row after : OutboxRow} {schedule : RetrySchedule} {failures : Nat} {now : Instant}

/-- The row as the last of so many failures leaves it: put off, or set aside if they are too
many. -/
def FailedTimes (row : OutboxRow) (schedule : RetrySchedule) (failures : Nat) (now : Instant) :
    Prop :=
  row.attempts = failures ∧
    if failures < schedule.maxAttempts then
      row.status = .failed ∧ row.nextAttemptAt = now.after (schedule.backoff failures)
    else row.status = .dead

/-- A failure counts from the copy that failed. -/
theorem settled_failedTimes {dispatcher : DispatcherSetup} {copy : OutboxRow} (row : OutboxRow)
    (error : BrokerError) :
    (row.settled dispatcher copy (.error error) now).FailedTimes dispatcher.schedule
      (min (copy.attempts + 1) attemptLimit) now := by
  simp only [settled, nextFailure, RetrySchedule.onFailure]
  split
  · next many => exact ⟨rfl, by rw [if_neg (Nat.not_lt_of_le many)]; rfl⟩
  · next few => exact ⟨rfl, by rw [if_pos (Nat.lt_of_not_le few)]; exact ⟨rfl, rfl⟩⟩

/-- The row counts its failures, and is set aside when there have been as many as the schedule
allows. -/
structure Counts (row : OutboxRow) (schedule : RetrySchedule) (failures : Nat) : Prop where
  attempts : row.attempts = failures
  within : failures ≤ schedule.maxAttempts
  dead : row.status = .dead ↔ failures = schedule.maxAttempts

theorem Counts.keep (counts : row.Counts schedule failures)
    (attempts : after.attempts = row.attempts)
    (dead : after.status = .dead ↔ row.status = .dead) : after.Counts schedule failures :=
  ⟨attempts.trans counts.attempts, counts.within, dead.trans counts.dead⟩

/-- A row that is not set aside yet may fail once more. -/
theorem Counts.lt (counts : row.Counts schedule failures) (live : row.status ≠ .dead) :
    failures < schedule.maxAttempts :=
  Nat.lt_of_le_of_ne counts.within fun all => live (counts.dead.mpr all)

theorem FailedTimes.counts (failed : row.FailedTimes schedule failures now)
    (within : failures ≤ schedule.maxAttempts) : row.Counts schedule failures where
  attempts := failed.1
  within := within
  dead := by
    have outcome := failed.2
    split at outcome
    · next few => exact iff_of_false (by rw [outcome.1]; decide) few.ne
    · next many => exact iff_of_true outcome (Nat.le_antisymm within (Nat.le_of_not_lt many))

end OutboxRow

namespace Delivery

variable {setup : DeliverySetup} {state : Delivery} {event : DeliveryEvent} {row copy : OutboxRow}
  {id : String} {count : Nat}

instance decidableRequeues (event : DeliveryEvent) (row : OutboxRow) :
    Decidable (Requeues event row) :=
  match event with
  | .requeue ids _ => inferInstanceAs (Decidable (row.RequeuedBy ids))
  | .reclaim .. | .claim _ | .publish .. | .report .. | .abandon _ | .settle .. | .seed ..
  | .arrive .. | .poll .. | .refuse _ => inferInstanceAs (Decidable False)

/-- The failures of a row after an event, when there were so many before it. -/
def tally (id : String) (state : Delivery) (count : Nat) (event : DeliveryEvent) : Nat :=
  match state.store.outboxRow? id with
  | none => 0
  | some row =>
    if Requeues event row then 0
    else if (state.failed? event).any (·.id == id) then count + 1 else count

/-- The failures of a row after a run from a state in which there were so many. -/
def failuresFrom (setup : DeliverySetup) (id : String) :
    Delivery → Nat → List DeliveryEvent → Nat
  | _, count, [] => count
  | state, count, event :: rest =>
    failuresFrom setup id (state.step setup event) (state.tally id count event) rest

/-- The failures of a row that are reported in a run, since it was queued again if it was. -/
def failures (setup : DeliverySetup) (id : String) (run : List DeliveryEvent) : Nat :=
  failuresFrom setup id start 0 run

theorem failuresFrom_append (first second : List DeliveryEvent) :
    failuresFrom setup id state count (first ++ second) =
      failuresFrom setup id (state.afterAll setup first)
        (failuresFrom setup id state count first) second := by
  induction first generalizing state count with
  | nil => rfl
  | cons event rest ih => exact ih

theorem failures_concat (run : List DeliveryEvent) (event : DeliveryEvent) :
    failures setup id (run ++ [event]) =
      (reached setup run).tally id (failures setup id run) event :=
  failuresFrom_append run [event]

theorem tally_absent (absent : state.store.outboxRow? id = none) :
    state.tally id count event = 0 := by
  rw [tally, absent]

theorem tally_requeued (lookup : state.store.outboxRow? id = some row)
    (requeued : Requeues event row) : state.tally id count event = 0 := by
  rw [tally, lookup]
  exact if_pos requeued

theorem tally_failed (lookup : state.store.outboxRow? id = some row)
    (failed : state.failed? event = some copy) (about : copy.id = id) :
    state.tally id count event = count + 1 := by
  have kept : ¬Requeues event row := by
    obtain ⟨_, _, _, _, rfl, -⟩ := failed?_some failed
    exact not_false
  have counted : (state.failed? event).any (·.id == id) = true := by simp [failed, about]
  rw [tally, lookup]
  exact (if_neg kept).trans (if_pos counted)

theorem tally_otherwise (lookup : state.store.outboxRow? id = some row)
    (kept : ¬Requeues event row)
    (unharmed : ∀ copy, state.failed? event = some copy → copy.id ≠ id) :
    state.tally id count event = count := by
  have uncounted : ¬(state.failed? event).any (·.id == id) = true := by
    rw [Option.any_eq_true]
    rintro ⟨copy, failed, about⟩
    exact unharmed copy failed (beq_iff_eq.mp about)
  rw [tally, lookup]
  exact (if_neg kept).trans (if_neg uncounted)

/-- A row that failed is left as its copy says, in any run. -/
theorem change_failedTimes (setup : DeliverySetup) (failed : state.failed? event = some copy)
    (about : copy.id = row.id) :
    ∃ now, event.moment? = some now ∧
      (state.change setup event row).FailedTimes setup.dispatcher.schedule
        (min (copy.attempts + 1) attemptLimit) now := by
  obtain ⟨dispatcher, now, error, rest, rfl, phase⟩ := failed?_some failed
  refine ⟨now, rfl, ?_⟩
  simp only [change, phase, settleIf, if_pos about.symm]
  exact settled_failedTimes row error

/-- Whatever else happens to a row, it counts as many failures as before, and is set aside if and
only if it was. -/
theorem change_spares (setup : DeliverySetup)
    (unique : (state.store.outbox.map (·.id)).Nodup)
    (lookup : state.store.outboxRow? id = some row) (kept : ¬Requeues event row)
    (unharmed : ∀ copy, state.failed? event = some copy → copy.id ≠ id)
    (live : ∀ copy dispatcher result rest, state.phases dispatcher = .reporting copy result rest →
      copy.id = id → row.status ≠ .dead) :
    (state.change setup event row).attempts = row.attempts ∧
      ((state.change setup event row).status = .dead ↔ row.status = .dead) := by
  obtain same | ⟨_, _, -, leased, same⟩ | ⟨_, _, -, claimable, same⟩ |
    ⟨_, _, copy, result, _, rfl, phase, about, same⟩ | ⟨_, _, rfl, asked, -⟩ :=
    change_cases setup event unique lookup
  · rw [same]
    exact ⟨rfl, Iff.rfl⟩
  · rw [same]
    exact ⟨rfl, iff_of_false nofun (by rw [leasedBefore_processing leased]; decide)⟩
  · rw [same]
    refine ⟨rfl, iff_of_false nofun ?_⟩
    obtain new | failed := claimable_status claimable
    · rw [new]
      decide
    · rw [failed]
      decide
  · -- A report of success would revive a row that was set aside.
    cases result with
    | ok =>
        rw [same]
        exact ⟨rfl, iff_of_false nofun (live _ _ _ _ phase about)⟩
    | error error =>
        exact absurd about (unharmed copy (by simp only [failed?, phase]))
  · exact absurd asked kept

/-- A copy of a row that failed counts as many failures as the row, and one more is allowed. -/
theorem Exclusive.failed_counts (exclusive : state.Exclusive)
    (word : setup.dispatcher.schedule.maxAttempts ≤ attemptLimit)
    (lookup : state.store.outboxRow? copy.id = some row)
    (counts : row.Counts setup.dispatcher.schedule count)
    (failed : state.failed? event = some copy) :
    count + 1 ≤ setup.dispatcher.schedule.maxAttempts ∧
      min (copy.attempts + 1) attemptLimit = count + 1 := by
  obtain ⟨_, _, _, _, rfl, phase⟩ := failed?_some failed
  obtain ⟨processing, attempts⟩ := exclusive.reporting phase lookup
  have few := counts.lt (by rw [processing]; decide)
  have counted := counts.attempts
  omega

theorem Exclusive.change_counts (exclusive : state.Exclusive)
    (unique : (state.store.outbox.map (·.id)).Nodup)
    (allowed : 1 ≤ setup.dispatcher.schedule.maxAttempts)
    (word : setup.dispatcher.schedule.maxAttempts ≤ attemptLimit)
    (lookup : state.store.outboxRow? id = some row)
    (counts : row.Counts setup.dispatcher.schedule count) (event : DeliveryEvent) :
    (state.change setup event row).Counts setup.dispatcher.schedule
      (state.tally id count event) := by
  obtain ⟨-, named⟩ := Store.outboxRow?_some lookup
  -- A row that is queued again counts anew, one that failed counts one more, any other as before.
  by_cases requeued : Requeues event row
  · rw [tally_requeued lookup requeued]
    unfold Requeues at requeued
    split at requeued
    · next ids now =>
        have anew : state.change setup (.requeue ids now) row = row.requeue now := if_pos requeued
        rw [anew]
        exact ⟨rfl, Nat.zero_le _, iff_of_false nofun (Nat.ne_of_lt allowed)⟩
    · exact requeued.elim
  by_cases harmed : ∃ copy, state.failed? event = some copy ∧ copy.id = id
  · obtain ⟨copy, failed, rfl⟩ := harmed
    obtain ⟨now, -, fails⟩ := change_failedTimes setup failed named.symm
    obtain ⟨within, number⟩ := exclusive.failed_counts word lookup counts failed
    rw [tally_failed lookup failed rfl]
    rw [number] at fails
    exact fails.counts within
  · have unharmed : ∀ copy, state.failed? event = some copy → copy.id ≠ id :=
      fun copy failed about => harmed ⟨copy, failed, about⟩
    have live : ∀ copy dispatcher result rest,
        state.phases dispatcher = .reporting copy result rest → copy.id = id →
          row.status ≠ .dead := by
      rintro copy dispatcher result rest phase rfl
      rw [(exclusive.reporting phase lookup).1]
      decide
    obtain ⟨attempts, dead⟩ := change_spares setup unique lookup requeued unharmed live
    rw [tally_otherwise lookup requeued unharmed]
    exact counts.keep attempts dead

/-- A row that is found after an event was found before and has been changed by it, or is new. -/
theorem step_row_cases (setup : DeliverySetup) (unique : (state.store.outbox.map (·.id)).Nodup)
    (found : (state.step setup event).store.outboxRow? id = some row) :
    (∃ earlier, state.store.outboxRow? id = some earlier ∧
        row = state.change setup event earlier) ∨
      state.store.outboxRow? id = none ∧ row.status = .new ∧ row.attempts = 0 := by
  cases lookup : state.store.outboxRow? id with
  | some earlier =>
      rw [step_row setup unique event lookup, Option.some.injEq] at found
      exact .inl ⟨earlier, rfl, found.symm⟩
  | none =>
      obtain ⟨rows, adds⟩ := step_adds setup unique event
      have absent : (state.store.withRows (state.change setup event)).outboxRow? id = none := by
        rw [Store.outboxRow?_withRows (state.change_relaying setup event), lookup]
        rfl
      rw [Store.outboxRow?, adds.outbox, List.find?_append] at found
      unfold Store.outboxRow? at absent
      rw [absent, Option.none_or] at found
      exact .inr ⟨rfl, adds.unsent row (List.mem_of_find?_eq_some found)⟩

theorem reached_counts {run : List DeliveryEvent} (punctual : start.Punctual setup run)
    (allowed : 1 ≤ setup.dispatcher.schedule.maxAttempts)
    (word : setup.dispatcher.schedule.maxAttempts ≤ attemptLimit)
    (lookup : (reached setup run).store.outboxRow? id = some row) :
    row.Counts setup.dispatcher.schedule (failures setup id run) := by
  -- The last event is taken off: the dispatchers that report then hold what they report of.
  induction run using List.reverseRecOn generalizing row with
  | nil => exact absurd lookup nofun
  | append_singleton run event ih =>
      have before := ((punctual_append run [event]).mp punctual).1
      have unique := (reached_issued setup run).1
      rw [reached_concat] at lookup
      rw [failures_concat]
      obtain ⟨earlier, found, rfl⟩ | ⟨absent, new, unfailed⟩ := step_row_cases setup unique lookup
      · exact (reached_exclusive before).change_counts unique allowed word found (ih before found)
          event
      · rw [tally_absent absent]
        refine ⟨unfailed, Nat.zero_le _, iff_of_false ?_ (Nat.ne_of_lt allowed)⟩
        rw [new]
        decide

/-- If no lease runs out under a dispatcher that still holds the row, a row counts the failures that
are reported of it since it was queued last, is set aside when there have been as many as the
schedule allows, and is put off by each before that.  In any run a failure goes by the copy of the
row that failed.  The delay is the one that doubles with every failure up to the cap, if and only if
there have been no more than thirty-two, or the cap is reached by then; it never shrinks, and keeps
to the cap. -/
theorem failures_put_off_then_set_aside (setup : DeliverySetup)
    (allowed : 1 ≤ setup.dispatcher.schedule.maxAttempts)
    (word : setup.dispatcher.schedule.maxAttempts ≤ attemptLimit) (run : List DeliveryEvent) :
    (start.Punctual setup run → ∀ id row, (reached setup run).store.outboxRow? id = some row →
      (row.attempts = failures setup id run ∧
        failures setup id run ≤ setup.dispatcher.schedule.maxAttempts ∧
        (row.status = .dead ↔ failures setup id run = setup.dispatcher.schedule.maxAttempts)) ∧
      ∀ event copy, (reached setup run).failed? event = some copy → copy.id = id →
        failures setup id (run ++ [event]) = failures setup id run + 1 ∧
        ∃ now next, event.moment? = some now ∧
          (reached setup (run ++ [event])).store.outboxRow? id = some next ∧
          next.FailedTimes setup.dispatcher.schedule (failures setup id run + 1) now) ∧
    (∀ event copy row, (reached setup run).failed? event = some copy →
      (reached setup run).store.outboxRow? copy.id = some row →
        ∃ now next, event.moment? = some now ∧
          (reached setup (run ++ [event])).store.outboxRow? copy.id = some next ∧
          next.FailedTimes setup.dispatcher.schedule (min (copy.attempts + 1) attemptLimit) now) ∧
    (∀ failures, setup.dispatcher.schedule.backoff failures =
        setup.dispatcher.schedule.doubled failures ↔
      failures ≤ 32 ∨ setup.dispatcher.schedule.baseBackoff.nanoseconds = 0 ∨
        setup.dispatcher.schedule.maxBackoff.nanoseconds ≤
          setup.dispatcher.schedule.baseBackoff.nanoseconds * 2 ^ 31) ∧
    (∀ earlier later, earlier ≤ later → setup.dispatcher.schedule.backoff earlier ≤
      setup.dispatcher.schedule.backoff later) ∧
    ∀ failures, setup.dispatcher.schedule.backoff failures ≤
      setup.dispatcher.schedule.maxBackoff := by
  have unique := (reached_issued setup run).1
  have leaves : ∀ event copy row, (reached setup run).failed? event = some copy →
      (reached setup run).store.outboxRow? copy.id = some row →
        ∃ now next, event.moment? = some now ∧
          (reached setup (run ++ [event])).store.outboxRow? copy.id = some next ∧
          next.FailedTimes setup.dispatcher.schedule (min (copy.attempts + 1) attemptLimit) now := by
    intro event copy row failed lookup
    obtain ⟨now, moment, fails⟩ :=
      change_failedTimes setup failed (Store.outboxRow?_some lookup).2.symm
    refine ⟨now, _, moment, ?_, fails⟩
    rw [reached_concat]
    exact step_row setup unique event lookup
  refine ⟨?_, leaves, setup.dispatcher.schedule.backoff_eq_doubled_iff, ?_,
    setup.dispatcher.schedule.backoff_le⟩
  · intro punctual id row lookup
    have counts := reached_counts punctual allowed word lookup
    refine ⟨⟨counts.attempts, counts.within, counts.dead⟩, ?_⟩
    rintro event copy failed rfl
    obtain ⟨now, next, moment, found, fails⟩ := leaves event copy row failed lookup
    rw [((reached_exclusive punctual).failed_counts word lookup counts failed).2] at fails
    rw [failures_concat, tally_failed lookup failed rfl]
    exact ⟨rfl, now, next, moment, found, fails⟩
  · intro earlier later order
    exact setup.dispatcher.schedule.backoff_mono order

end Delivery

namespace Sample

/-- Rows are claimed one at a time, and each may fail forty times, with long delays in the end. -/
def persistent : DeliverySetup :=
  { delivery with dispatcher :=
      { batch := 1
        schedule := ⟨.ofMillis 1, .ofMillis 10000000000, 40⟩ } }

/-- A cycle in which the broker cannot be reached, up to the report. -/
def unreachable (now : Instant) : List DeliveryEvent :=
  [.reclaim 0 now, .claim 0, .publish 0 (.lost (.connection "timeout"))]

/-- The first row of a new order fails time and again. -/
def failing (count : Nat) : List DeliveryEvent :=
  [.seed "a-1" "USDT" (Sample.units 1000) start, .settle (.create purchase) start] ++
    (List.range count).flatMap fun n =>
      unreachable (minute (n * 40000)) ++ [.report 0 (minute (n * 40000))]

/-- It is about to fail for the second time. -/
def failingAgain : List DeliveryEvent := failing 1 ++ unreachable (minute 40000)

/-- A row fails under a second dispatcher, and then under the first, whose lease had run out. -/
def failedTwice : List DeliveryEvent :=
  leased ++ [.reclaim 1 (minute 3), .claim 1, .publish 1 (.lost (.connection "timeout")),
    .report 1 (minute 3), .publish 0 (.lost (.connection "timeout")), .report 0 (minute 3)]

end Sample

namespace Delivery

/-- The second failure of a row puts it off by twice the first delay. -/
theorem sample_failure_puts_off :
    ∃ row ∈ (reached Sample.persistent Sample.failingAgain).store.outbox, row.attempts = 1 ∧
      ∃ next, (reached Sample.persistent (Sample.failingAgain ++
          [.report 0 (Sample.minute 40000)])).store.outboxRow? row.id = some next ∧
        next.attempts = 2 ∧ next.status = .failed ∧
        next.nextAttemptAt = (Sample.minute 40000).after (.ofMillis 2) := by
  have punctual : start.Punctual Sample.persistent Sample.failingAgain := by
    have listed : Sample.failingAgain = [.seed "a-1" "USDT" (Sample.units 1000) Sample.start,
        .settle (.create Sample.purchase) Sample.start, .reclaim 0 (Sample.minute 0), .claim 0,
        .publish 0 (.lost (.connection "timeout")), .report 0 (Sample.minute 0)] ++
          Sample.unreachable (Sample.minute 40000) := rfl
    simp only [listed, Sample.unreachable, List.cons_append, List.nil_append, Punctual]
    exact ⟨not_false, not_false, not_overtakes (by decide +kernel), not_false, not_false, not_false,
      not_overtakes (by decide +kernel), not_false, not_false, trivial⟩
  have failing : ∃ row ∈ (reached Sample.persistent Sample.failingAgain).store.outbox,
      row.attempts = 1 ∧ ∃ copy ∈ (reached Sample.persistent Sample.failingAgain).failed?
        (.report 0 (Sample.minute 40000)), copy.id = row.id := by
    decide +kernel
  obtain ⟨row, member, once, copy, failed, about⟩ := failing
  have lookup := Store.outboxRow?_of_mem (reached_issued Sample.persistent _).1 member
  obtain ⟨⟨attempts, -, -⟩, fails⟩ := (failures_put_off_then_set_aside Sample.persistent
    (by decide) (by decide) Sample.failingAgain).1 punctual row.id row lookup
  obtain ⟨-, now, next, moment, found, fails⟩ := fails _ copy failed about
  rw [← attempts, once] at fails
  obtain rfl := Option.some.inj moment
  exact ⟨row, member, once, next, found, fails.1, fails.2⟩

/-- After the thirty-third failure the delay is only half of the doubled one, though the cap is far
from being reached; and two failures count as one if the second is reported by a dispatcher whose
lease had run out before the first. -/
theorem sample_failures_off_schedule :
    (∃ row ∈ (reached Sample.persistent (Sample.failing 33)).store.outbox,
      failures Sample.persistent row.id (Sample.failing 33) = 33 ∧ row.status = .failed ∧
        row.nextAttemptAt ≠ (Sample.minute (32 * 40000)).after
          (Sample.persistent.dispatcher.schedule.doubled 33)) ∧
    ∃ row ∈ (reached Sample.delivery Sample.failedTwice).store.outbox,
      failures Sample.delivery row.id Sample.failedTwice = 2 ∧ row.attempts = 1 := by
  decide +kernel

end Delivery

end SpotSettlement
