import Mathlib.Data.List.Induction
import SpotSettlement.Connector.Health

namespace SpotSettlement

/-! # What the status of a connector says

Of all that is recorded of a connector only polls touch its status.  The status that is kept tells
how the latest poll went, and one that is derived anew tells whether a success is recent and whether
an error came after it.
-/

/-- The later moment is at most so long after the earlier one. -/
def Instant.Within (earlier later : Instant) (length : Duration) : Prop :=
  later.nanoseconds ≤ earlier.nanoseconds + length.nanoseconds

instance (earlier later : Instant) (length : Duration) : Decidable (earlier.Within later length) :=
  inferInstanceAs (Decidable (_ ≤ _))

theorem Instant.not_lt_before {earlier later : Instant} {length : Duration}
    (bounded : first ≤ earlier) : ¬earlier < later.before length ↔ earlier.Within later length := by
  simp only [le_iff, lt_iff, before, Within] at *
  omega

inductive HealthRecord where
  | pollSuccess (openOrders trades : Nat)
  | pollIncomplete (openOrders trades : Nat) (code message : String)
  | pollFailure (code message : String)
  | error (code message : String)
  | streamError (code message : String)
  | streamOutcome (outcome : IngestOutcome)
  | websocket (state : WebsocketState) (attempts : Nat)

namespace HealthRecord

def isPoll : HealthRecord → Bool
  | .pollSuccess .. | .pollIncomplete .. | .pollFailure .. => true
  | .error .. | .streamError .. | .streamOutcome _ | .websocket .. => false

def isSuccess : HealthRecord → Bool
  | .pollSuccess .. => true
  | _ => false

/-- Whether an error is recorded, by a poll or by the stream. -/
def isError : HealthRecord → Bool
  | .pollIncomplete .. | .pollFailure .. | .error .. | .streamError .. => true
  | .pollSuccess .. | .streamOutcome _ | .websocket .. => false

theorem isPoll_of_isSuccess {record : HealthRecord} :
    record.isSuccess = true → record.isPoll = true := by
  cases record <;> simp [isSuccess, isPoll]

theorem isSuccess_of_isError {record : HealthRecord} :
    record.isError = true → record.isSuccess = false := by
  cases record <;> simp [isError, isSuccess]

/-- A poll that did not succeed tells of an error. -/
theorem isError_of_isPoll {record : HealthRecord} :
    record.isPoll = true → record.isSuccess = false → record.isError = true := by
  cases record <;> simp [isPoll, isSuccess, isError]

end HealthRecord

/-- A record and its moment. -/
structure HealthEvent where
  record : HealthRecord
  moment : Instant

namespace HealthEvent

variable {kind : HealthRecord → Bool} {run before after : List HealthEvent} {event : HealthEvent}
  {moment : Instant}

/-- The moment of the last event of a kind. -/
def lastOf (kind : HealthRecord → Bool) (run : List HealthEvent) : Option Instant :=
  (run.reverse.find? (kind ·.record)).map (·.moment)

theorem lastOf_concat (kind : HealthRecord → Bool) (run : List HealthEvent) (event : HealthEvent) :
    lastOf kind (run ++ [event]) =
      if kind event.record then some event.moment else lastOf kind run := by
  rw [lastOf, List.reverse_concat, List.find?_cons]
  cases kind event.record <;> rfl

theorem lastOf_some (last : lastOf kind run = some moment) :
    ∃ event ∈ run, kind event.record = true ∧ event.moment = moment := by
  obtain ⟨event, found, same⟩ := Option.map_eq_some_iff.mp last
  have member := List.mem_reverse.mp (List.mem_of_find?_eq_some found)
  have counts := List.find?_some found
  exact ⟨event, member, counts, same⟩

/-- Of moments that increase the last one is the latest. -/
theorem le_lastOf (increasing : (run.map (·.moment)).Pairwise (· < ·)) (member : event ∈ run)
    (counts : kind event.record = true) :
    ∃ moment, lastOf kind run = some moment ∧ event.moment ≤ moment := by
  induction run using List.reverseRecOn with
  | nil => contradiction
  | append_singleton run last ih =>
      rw [List.map_append, List.pairwise_append] at increasing
      obtain ⟨earlier, -, between⟩ := increasing
      rw [lastOf_concat]
      obtain present | same := List.mem_append.mp member
      · have later := between _ (List.mem_map_of_mem present) _ (List.mem_singleton_self _)
        split
        · exact ⟨_, rfl, Int.le_of_lt later⟩
        · exact ih earlier present
      · obtain rfl := List.mem_singleton.mp same
        exact ⟨_, if_pos counts, Int.le_refl _⟩

end HealthEvent

namespace ConnectorHealth

def record (threshold : Duration) (health : ConnectorHealth) (event : HealthEvent) :
    ConnectorHealth :=
  match event.record with
  | .pollSuccess openOrders trades =>
    health.recordPollSuccess openOrders trades threshold event.moment
  | .pollIncomplete openOrders trades code message =>
    health.recordPollIncomplete openOrders trades code message threshold event.moment
  | .pollFailure code message => health.recordPollFailure code message threshold event.moment
  | .error code message => health.recordError code message event.moment
  | .streamError code message => health.recordStreamError code message event.moment
  | .streamOutcome outcome => health.recordStreamOutcome outcome event.moment
  | .websocket state attempts => health.recordWebsocket state attempts event.moment

def afterAll (threshold : Duration) (health : ConnectorHealth) (run : List HealthEvent) :
    ConnectorHealth :=
  run.foldl (record threshold) health

variable {threshold : Duration} {health : ConnectorHealth} {event : HealthEvent}
  {run before after : List HealthEvent} {connector : String} {begun : Instant}

theorem afterAll_concat (run : List HealthEvent) (event : HealthEvent) :
    health.afterAll threshold (run ++ [event]) =
      (health.afterAll threshold run).record threshold event :=
  List.foldl_append

theorem record_lastSuccessAt (threshold : Duration) (health : ConnectorHealth)
    (event : HealthEvent) : (health.record threshold event).lastSuccessAt =
      if event.record.isSuccess then some event.moment else health.lastSuccessAt := by
  obtain ⟨record, moment⟩ := event
  cases record <;> rfl

theorem record_lastPollAt (threshold : Duration) (health : ConnectorHealth)
    (event : HealthEvent) : (health.record threshold event).lastPollAt =
      if event.record.isPoll then some event.moment else health.lastPollAt := by
  obtain ⟨record, moment⟩ := event
  cases record <;> rfl

theorem record_lastErrorAt (threshold : Duration) (health : ConnectorHealth)
    (event : HealthEvent) : (health.record threshold event).lastErrorAt =
      if event.record.isError then some event.moment else health.lastErrorAt := by
  obtain ⟨record, moment⟩ := event
  cases record <;> rfl

/-- A poll derives the status from what it has recorded itself. -/
theorem record_status (threshold : Duration) (health : ConnectorHealth) (event : HealthEvent) :
    (health.record threshold event).status =
      if event.record.isPoll then
        (health.record threshold event).deriveStatus threshold event.moment
      else health.status := by
  obtain ⟨record, moment⟩ := event
  cases record <;> rfl

/-- A moment that is overwritten by the events of a kind is that of the last of them. -/
theorem afterAll_lastOf {kind : HealthRecord → Bool} {field : ConnectorHealth → Option Instant}
    (start : field health = none)
    (overwrites : ∀ health event, field (health.record threshold event) =
      if kind event.record then some event.moment else field health)
    (run : List HealthEvent) :
    field (health.afterAll threshold run) = HealthEvent.lastOf kind run := by
  induction run using List.reverseRecOn with
  | nil => exact start
  | append_singleton run event ih =>
      rw [afterAll_concat, overwrites, ih, HealthEvent.lastOf_concat]

theorem afterAll_status (others : ∀ event ∈ after, event.record.isPoll = false) :
    (health.afterAll threshold after).status = health.status := by
  induction after using List.reverseRecOn with
  | nil => rfl
  | append_singleton after event ih =>
      rw [afterAll_concat, record_status, others event (by simp), if_neg Bool.false_ne_true]
      exact ih fun other member => others other (List.mem_append_left _ member)

theorem deriveStatus_eq_down_iff {now : Instant} : health.deriveStatus threshold now = .down ↔
    ∀ success, health.lastSuccessAt = some success → success < now.before threshold := by
  unfold deriveStatus
  cases health.lastSuccessAt with
  | none => simp
  | some success =>
      simp only [Option.some.injEq, forall_eq']
      split
      · next stale => exact iff_of_true rfl stale
      · next recent =>
          refine iff_of_false ?_ recent
          split
          · split <;> nofun
          · nofun

theorem deriveStatus_eq_up_iff {now : Instant} : health.deriveStatus threshold now = .up ↔
    ∃ success, health.lastSuccessAt = some success ∧ ¬success < now.before threshold ∧
      ∀ error, health.lastErrorAt = some error → ¬success < error := by
  unfold deriveStatus
  cases health.lastSuccessAt with
  | none => simp
  | some success =>
      simp only [Option.some.injEq, exists_eq_left']
      split
      · next stale => exact iff_of_false nofun fun up => up.1 stale
      · next recent =>
          cases health.lastErrorAt with
          | none => simp [recent]
          | some error =>
              simp only [Option.some.injEq, forall_eq', recent, not_false_eq_true, true_and]
              split
              · next failed => exact iff_of_false nofun fun up => up failed
              · next earlier => exact iff_of_true rfl earlier

theorem deriveStatus_eq_degraded {now success error : Instant}
    (succeeded : health.lastSuccessAt = some success) (recent : ¬success < now.before threshold)
    (failed : health.lastErrorAt = some error) (later : success < error) :
    health.deriveStatus threshold now = .degraded := by
  cases status : health.deriveStatus threshold now with
  | degraded => rfl
  | down => exact absurd (deriveStatus_eq_down_iff.mp status success succeeded) recent
  | up =>
      obtain ⟨other, same, -, noError⟩ := deriveStatus_eq_up_iff.mp status
      obtain rfl := Option.some.inj (succeeded.symm.trans same)
      exact absurd later (noError error failed)

/-- The status after a run whose latest poll is the one between the two parts. -/
theorem afterAll_split (others : ∀ event ∈ after, event.record.isPoll = false)
    (poll : event.record.isPoll = true) :
    (health.afterAll threshold (before ++ event :: after)).status =
      (health.afterAll threshold (before ++ [event])).deriveStatus threshold event.moment := by
  have parts : health.afterAll threshold (before ++ event :: after) =
      (health.afterAll threshold (before ++ [event])).afterAll threshold after := by
    simp only [afterAll, ← List.foldl_append, List.append_assoc, List.singleton_append]
  rw [parts, afterAll_status others, afterAll_concat, record_status, if_pos poll]

section Reached

variable (threshold connector begun)

def reached (run : List HealthEvent) : ConnectorHealth :=
  (initial connector begun).afterAll threshold run

theorem reached_lastSuccessAt (run : List HealthEvent) :
    (reached threshold connector begun run).lastSuccessAt =
      HealthEvent.lastOf HealthRecord.isSuccess run :=
  afterAll_lastOf rfl (record_lastSuccessAt threshold) run

theorem reached_lastErrorAt (run : List HealthEvent) :
    (reached threshold connector begun run).lastErrorAt =
      HealthEvent.lastOf HealthRecord.isError run :=
  afterAll_lastOf rfl (record_lastErrorAt threshold) run

/-- A poll that succeeds leaves the status up. -/
theorem reached_success (increasing : ((before ++ [event]).map (·.moment)).Pairwise (· < ·))
    (bounded : Instant.first ≤ event.moment) (success : event.record.isSuccess = true) :
    (reached threshold connector begun (before ++ [event])).deriveStatus threshold event.moment =
      .up := by
  refine deriveStatus_eq_up_iff.mpr ⟨event.moment, ?_, ?_, ?_⟩
  · rw [reached_lastSuccessAt, HealthEvent.lastOf_concat, if_pos success]
  · rw [Instant.not_lt_before bounded, Instant.Within]
    omega
  · intro error failed
    rw [reached_lastErrorAt] at failed
    obtain ⟨other, member, -, rfl⟩ := HealthEvent.lastOf_some failed
    -- No event is later than the last one.
    rw [List.map_append, List.pairwise_append] at increasing
    obtain earlier | same := List.mem_append.mp member
    · have := increasing.2.2 _ (List.mem_map_of_mem earlier) _ (List.mem_singleton_self _)
      simp only [Instant.lt_iff] at *
      omega
    · rw [List.mem_singleton.mp same]
      exact Int.lt_irrefl _

/-- A poll that fails leaves the status degraded if an earlier success is recent. -/
theorem reached_failure (increasing : ((before ++ [event]).map (·.moment)).Pairwise (· < ·))
    (bounded : ∀ earlier ∈ before, Instant.first ≤ earlier.moment)
    (poll : event.record.isPoll = true) (failed : event.record.isSuccess = false) :
    ((∃ earlier ∈ before, earlier.record.isSuccess = true ∧
        earlier.moment.Within event.moment threshold) →
      (reached threshold connector begun (before ++ [event])).deriveStatus threshold event.moment =
        .degraded) ∧
    ((¬∃ earlier ∈ before, earlier.record.isSuccess = true ∧
        earlier.moment.Within event.moment threshold) →
      (reached threshold connector begun (before ++ [event])).deriveStatus threshold event.moment =
        .down) := by
  rw [List.map_append, List.pairwise_append] at increasing
  have success := reached_lastSuccessAt threshold connector begun (before ++ [event])
  rw [HealthEvent.lastOf_concat, failed, if_neg Bool.false_ne_true] at success
  have error := reached_lastErrorAt threshold connector begun (before ++ [event])
  rw [HealthEvent.lastOf_concat, if_pos (HealthRecord.isError_of_isPoll poll failed)] at error
  constructor
  · rintro ⟨earlier, member, succeeded, recent⟩
    obtain ⟨latest, found, later⟩ := HealthEvent.le_lastOf increasing.1 member succeeded
    obtain ⟨other, present, -, rfl⟩ := HealthEvent.lastOf_some found
    refine deriveStatus_eq_degraded (success.trans found) ?_ error ?_
    · rw [Instant.not_lt_before (bounded other present)]
      simp only [Instant.Within, Instant.le_iff] at *
      omega
    · exact increasing.2.2 _ (List.mem_map_of_mem present) _ (List.mem_singleton_self _)
  · intro stale
    refine deriveStatus_eq_down_iff.mpr fun moment found => ?_
    obtain ⟨other, present, succeeded, rfl⟩ := HealthEvent.lastOf_some (success.symm.trans found)
    by_contra recent
    rw [Instant.not_lt_before (bounded other present)] at recent
    exact stale ⟨other, present, succeeded, recent⟩

end Reached

/-- The status that is kept tells how the latest poll went: up after a success, degraded after a
failure that follows a recent success, down otherwise and without a poll.  Nothing else touches the
status or the moments of polls.  A status that is derived is down if no success is recent, and not
up while there is an error after the last success. -/
theorem status_reflects_latest_poll (threshold : Duration) (connector : String) (begun : Instant)
    (run : List HealthEvent) (increasing : (run.map (·.moment)).Pairwise (· < ·))
    (bounded : ∀ event ∈ run, Instant.first ≤ event.moment) :
    ((∀ event ∈ run, event.record.isPoll = false) →
      (reached threshold connector begun run).status = .down) ∧
    (∀ before poll after, run = before ++ poll :: after → poll.record.isPoll = true →
      (∀ event ∈ after, event.record.isPoll = false) →
        (poll.record.isSuccess = true →
          (reached threshold connector begun run).status = .up) ∧
        (poll.record.isSuccess = false →
          ((∃ earlier ∈ before, earlier.record.isSuccess = true ∧
              earlier.moment.Within poll.moment threshold) →
            (reached threshold connector begun run).status = .degraded) ∧
          ((¬∃ earlier ∈ before, earlier.record.isSuccess = true ∧
              earlier.moment.Within poll.moment threshold) →
            (reached threshold connector begun run).status = .down))) ∧
    (∀ health event, event.record.isPoll = false →
      (record threshold health event).status = health.status ∧
      (record threshold health event).lastSuccessAt = health.lastSuccessAt ∧
      (record threshold health event).lastPollAt = health.lastPollAt) ∧
    ∀ allowed now,
      ((∀ event ∈ run, event.record.isSuccess = true → ¬event.moment.Within now allowed) →
        (reached threshold connector begun run).deriveStatus allowed now = .down) ∧
      ∀ before error after, run = before ++ error :: after → error.record.isError = true →
        (∀ event ∈ after, event.record.isSuccess = false) →
          (reached threshold connector begun run).deriveStatus allowed now ≠ .up := by
  refine ⟨?_, ?_, ?_, ?_⟩
  · exact afterAll_status
  · rintro before poll after rfl polled others
    have split : before ++ poll :: after = (before ++ [poll]) ++ after := by simp
    have sofar : ((before ++ [poll]).map (·.moment)).Pairwise (· < ·) := by
      rw [split, List.map_append, List.pairwise_append] at increasing
      exact increasing.1
    have status : (reached threshold connector begun (before ++ poll :: after)).status =
        (reached threshold connector begun (before ++ [poll])).deriveStatus threshold poll.moment :=
      afterAll_split others polled
    refine ⟨fun success => status.trans ?_, fun failed => ?_⟩
    · exact reached_success threshold connector begun sofar (bounded poll (by simp)) success
    · have reached := reached_failure threshold connector begun sofar
        (fun earlier member => bounded earlier (by simp [member])) polled failed
      exact ⟨fun recent => status.trans (reached.1 recent),
        fun stale => status.trans (reached.2 stale)⟩
  · intro health event other
    have noSuccess : event.record.isSuccess = false := by
      by_contra success
      have poll := HealthRecord.isPoll_of_isSuccess (by simpa using success)
      rw [other] at poll
      contradiction
    rw [record_status, record_lastSuccessAt, record_lastPollAt, other, noSuccess]
    exact ⟨rfl, rfl, rfl⟩
  · intro allowed now
    constructor
    · intro stale
      refine deriveStatus_eq_down_iff.mpr fun moment found => ?_
      rw [reached_lastSuccessAt] at found
      obtain ⟨event, member, success, rfl⟩ := HealthEvent.lastOf_some found
      by_contra recent
      exact stale event member success ((Instant.not_lt_before (bounded event member)).mp recent)
    · rintro before error after rfl recorded others up
      obtain ⟨moment, succeeded, -, noError⟩ := deriveStatus_eq_up_iff.mp up
      rw [reached_lastSuccessAt] at succeeded
      obtain ⟨success, member, counts, rfl⟩ := HealthEvent.lastOf_some succeeded
      have earlier : success ∈ before := by
        obtain present | rfl | later := by simpa using member
        · exact present
        · rw [HealthRecord.isSuccess_of_isError recorded] at counts
          contradiction
        · rw [others success later] at counts
          contradiction
      have after := increasing
      rw [List.map_append, List.pairwise_append] at after
      have follows : success.moment < error.moment :=
        after.2.2 _ (List.mem_map_of_mem earlier) _ List.mem_cons_self
      obtain ⟨latest, found, later⟩ := HealthEvent.le_lastOf increasing (by simp) recorded
      refine noError latest (by rw [reached_lastErrorAt, found]) ?_
      simp only [Instant.lt_iff, Instant.le_iff] at *
      omega

end ConnectorHealth

/-! In the sample a poll succeeds, the stream fails, and the next polls fail too. -/

namespace Sample

def polled : List HealthEvent :=
  [⟨.pollSuccess 2 5, .ofMillis 0⟩, ⟨.streamError "DECODE" "bad frame", .ofMillis 1000⟩,
    ⟨.pollFailure "TRANSPORT" "timeout", .ofMillis 10000⟩]

end Sample

namespace ConnectorHealth

/-- The sample is degraded while its success is recent, and down once a minute has passed. -/
theorem sample_status_is_degraded :
    (reached (.ofSeconds 60) "binance" (.ofMillis 0) Sample.polled).status = .degraded ∧
    (reached (.ofSeconds 60) "binance" (.ofMillis 0) Sample.polled).deriveStatus (.ofSeconds 60)
      (.ofMillis 61000) = .down := by
  have status := status_reflects_latest_poll (.ofSeconds 60) "binance" (.ofMillis 0) Sample.polled
    (by decide) (by decide)
  have latest := status.2.1 (Sample.polled.take 2) _ [] rfl rfl (List.forall_mem_nil _)
  refine ⟨(latest.2 rfl).1 ⟨_, List.mem_cons_self, rfl, by decide⟩, (status.2.2.2 _ _).1 ?_⟩
  decide

end ConnectorHealth

end SpotSettlement
