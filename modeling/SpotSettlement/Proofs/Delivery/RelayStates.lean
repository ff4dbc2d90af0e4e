import SpotSettlement.Proofs.Delivery.Relay
import SpotSettlement.Proofs.Outbox.Coherence
import SpotSettlement.Proofs.Settlement.Outbox

namespace SpotSettlement

/-! # What the relay keeps

Whatever fails, the fields of a row that tell how far its delivery has come agree with its status,
and the broker has the messages of the rows that were delivered, and none that is of no row.
-/

/-- The message is what the broker takes when the row is published. -/
structure Message.IsOf (message : Message) (row : OutboxRow) : Prop where
  topic : message.topic = row.topic
  key : message.key = row.partitionKey
  payload : message.payload = row.payload

theorem Message.IsOf.congr {message : Message} {row other : OutboxRow} (sent : message.IsOf row)
    (same : row.asMade = other.asMade) : message.IsOf other where
  topic := sent.topic.trans (congrArg (·.topic) same)
  key := sent.key.trans (congrArg (·.partitionKey) same)
  payload := sent.payload.trans (congrArg (·.payload) same)

/-- The broker refuses and takes nothing, or it takes the message of the row. -/
theorem Broker.publish_row (broker : Broker) (row : OutboxRow) :
    ((broker.publish row.topic row.partitionKey row.payload).1 ≠ .ok () ∧
      (broker.publish row.topic row.partitionKey row.payload).2.messages = broker.messages) ∨
    ∃ message : Message, message.IsOf row ∧
      (broker.publish row.topic row.partitionKey row.payload).2.messages =
        broker.messages ++ [message] := by
  unfold publish
  split
  · exact .inl ⟨nofun, rfl⟩
  · exact .inr ⟨_, ⟨rfl, rfl, rfl⟩, rfl⟩

theorem Handover.publish_cases (handover : Handover) (broker : Broker) (row : OutboxRow) :
    ((handover.publish broker row).1 ≠ .ok () ∧
      (handover.publish broker row).2.messages = broker.messages) ∨
    ∃ message : Message, message.IsOf row ∧
      (handover.publish broker row).2.messages = broker.messages ++ [message] := by
  have taken := broker.publish_row row
  cases handover with
  | answered => exact taken
  | lost => exact .inl ⟨nofun, rfl⟩
  | unanswered => exact taken.imp_left fun ⟨_, same⟩ => ⟨nofun, same⟩

def DispatchReport.outcomes (report : DispatchReport) : Nat :=
  report.published + report.failed + report.dead

theorem DispatcherSetup.settle_counts {dispatcher : DispatcherSetup} {row : OutboxRow}
    {result : Except BrokerError Unit} {report counted : DispatchReport} {now : Instant}
    {store after : Store}
    (done : (dispatcher.settle row result report now).run store = .ok (counted, after)) :
    counted.claimed = report.claimed ∧ counted.outcomes = report.outcomes + 1 := by
  unfold settle at done
  cases result with
  | ok =>
      simp only [Work.bind_ok, Work.pure_ok] at done
      obtain ⟨_, _, -, rfl, -⟩ := done
      refine ⟨rfl, ?_⟩
      simp only [DispatchReport.outcomes]
      omega
  | error error =>
      dsimp only at done
      split at done
      · simp only [Work.bind_ok, Work.pure_ok] at done
        obtain ⟨_, _, -, rfl, -⟩ := done
        refine ⟨rfl, ?_⟩
        simp only [DispatchReport.outcomes]
        omega
      · simp only [Work.bind_ok, Work.pure_ok] at done
        obtain ⟨_, _, -, rfl, -⟩ := done
        exact ⟨rfl, rfl⟩

namespace Relay

open OutboxRow

variable {dispatcher : DispatcherSetup} {relay middle after : Relay} {row : OutboxRow}
  {rest : List OutboxRow} {change : OutboxRow → OutboxRow}

def made (relay : Relay) : List OutboxRow := relay.store.outbox.map asMade

/-- Rows have names of their own and are coherent, and they are what the messages are of. -/
structure Sound (dispatcher : DispatcherSetup) (relay : Relay) : Prop where
  issued : relay.store.Issued (relay.store.outbox.map (·.id))
  coherent : ∀ row ∈ relay.store.outbox, row.Coherent dispatcher.schedule.maxAttempts
  accepted : ∀ row ∈ relay.store.outbox, row.status = .published →
    ∃ message ∈ relay.broker.messages, message.IsOf row
  announced : ∀ message ∈ relay.broker.messages, ∃ row ∈ relay.store.outbox, message.IsOf row

/-- A relay that is sound, with the rows of an earlier one. -/
structure Follows (dispatcher : DispatcherSetup) (relay after : Relay) : Prop where
  sound : after.Sound dispatcher
  made : relay.made <+: after.made

theorem Sound.follows (sound : relay.Sound dispatcher) : relay.Follows dispatcher relay :=
  ⟨sound, List.prefix_refl _⟩

theorem Follows.trans (first : relay.Follows dispatcher middle)
    (second : middle.Follows dispatcher after) : relay.Follows dispatcher after :=
  ⟨second.sound, first.made.trans second.made⟩

theorem empty_sound (dispatcher : DispatcherSetup) : Sound dispatcher {} :=
  ⟨⟨.nil, fun _ => nofun⟩, fun _ => nofun, fun _ => nofun, fun _ => nofun⟩

/-- Rows may change as long as they stay coherent and none is delivered that the broker lacks. -/
theorem Sound.withRows (sound : relay.Sound dispatcher) (relaying : Relaying change)
    (coherent : ∀ row ∈ relay.store.outbox,
      (change row).Coherent dispatcher.schedule.maxAttempts)
    (accepted : ∀ row ∈ relay.store.outbox, (change row).status = .published →
      row.status = .published ∨ ∃ message ∈ relay.broker.messages, message.IsOf row) :
    relay.Follows dispatcher { relay with store := relay.store.withRows change } where
  sound :=
    { issued := by
        rw [Store.ids_withRows relaying]
        exact sound.issued
      coherent := by
        intro row member
        obtain ⟨earlier, present, rfl⟩ := List.mem_map.mp member
        exact coherent earlier present
      accepted := by
        intro row member published
        obtain ⟨earlier, present, rfl⟩ := List.mem_map.mp member
        obtain ⟨message, sent, is⟩ :=
          (accepted earlier present published).elim (sound.accepted earlier present) id
        exact ⟨message, sent, is.congr (relaying earlier).symm⟩
      announced := by
        intro message sent
        obtain ⟨row, member, is⟩ := sound.announced message sent
        exact ⟨change row, List.mem_map_of_mem member, is.congr (relaying row).symm⟩ }
  made := by
    have same : ({ relay with store := relay.store.withRows change } : Relay).made = relay.made := by
      rw [Relay.made, Store.withRows, List.map_map]
      exact List.map_congr_left fun row _ => relaying row
    rw [same]

theorem Sound.withSomeRows (sound : relay.Sound dispatcher) (relaying : Relaying change)
    (each : ∀ row ∈ relay.store.outbox, change row = row ∨
      (change row).Coherent dispatcher.schedule.maxAttempts ∧ (change row).status ≠ .published) :
    relay.Follows dispatcher { relay with store := relay.store.withRows change } := by
  refine sound.withRows relaying ?_ ?_
  · intro row member
    obtain same | ⟨coherent, -⟩ := each row member
    · rw [same]
      exact sound.coherent row member
    · exact coherent
  · intro row member published
    obtain same | ⟨-, undelivered⟩ := each row member
    · rw [same] at published
      exact .inl published
    · exact absurd published undelivered

theorem Sound.enqueue (sound : relay.Sound dispatcher)
    (positive : 0 < dispatcher.schedule.maxAttempts) (request : Request) :
    relay.Follows dispatcher { relay with store := request.apply relay.store } := by
  obtain ⟨rows, adds⟩ := Store.apply_addsRows request relay.store
  have old : relay.store.outbox ⊆ (request.apply relay.store).outbox :=
    adds.outbox ▸ List.subset_append_left _ _
  refine ⟨⟨adds.issued sound.issued, ?_, ?_, ?_⟩, ?_⟩
  · intro row member
    rw [adds.outbox] at member
    exact (List.mem_append.mp member).elim (sound.coherent row)
      fun added => coherent_of_asMade positive (adds.made row added)
  · intro row member published
    rw [adds.outbox] at member
    obtain present | added := List.mem_append.mp member
    · exact sound.accepted row present published
    · rw [(adds.unsent row added).1] at published
      contradiction
  · intro message sent
    obtain ⟨row, member, is⟩ := sound.announced message sent
    exact ⟨row, old member, is⟩
  · rw [made, made, adds.outbox, List.map_append]
    exact List.prefix_append _ _

theorem Sound.reclaim (sound : relay.Sound dispatcher) (lease : Duration) (now : Instant) :
    relay.Follows dispatcher (relay.perform (Store.reclaimStale lease now)) := by
  rw [perform, Store.perform_reclaimStale]
  refine sound.withSomeRows (reclaimIf_relaying _ _) fun row member => ?_
  unfold reclaimIf
  split
  · next leased =>
      exact .inr ⟨(sound.coherent row member).reclaim (leasedBefore_processing leased), nofun⟩
  · exact .inl rfl

theorem Sound.requeue (sound : relay.Sound dispatcher)
    (positive : 0 < dispatcher.schedule.maxAttempts) (ids : Option (List String)) (now : Instant) :
    relay.Follows dispatcher (relay.perform (Store.requeueDead ids now)) := by
  rw [perform, Store.perform_requeueDead]
  refine sound.withSomeRows (requeueIf_relaying _ _) fun row member => ?_
  unfold requeueIf
  split
  · next asked => exact .inr ⟨(sound.coherent row member).requeue positive asked.1, nofun⟩
  · exact .inl rfl

/-- The rows are in the outbox, in its order, and they are leased. -/
structure Holds (relay : Relay) (rows : List OutboxRow) : Prop where
  sublist : rows.Sublist relay.store.outbox
  leased : ∀ row ∈ rows, row.status = .processing

theorem Sound.claim (sound : relay.Sound dispatcher) (limit : Nat) (now : Instant) :
    ∃ rows store, relay.store.perform (Store.claimBatch limit now) = (.ok rows, store) ∧
      rows.length ≤ limit ∧ relay.Follows dispatcher { relay with store } ∧
      ({ relay with store } : Relay).Holds rows := by
  have unique := sound.issued.1
  obtain ⟨taken, sublist, claimables, bound, claimed⟩ :=
    Store.perform_claimBatch unique limit now
  -- Only rows that were taken have their names.
  have own : ∀ row ∈ relay.store.outbox, row.id ∈ taken.map (·.id) → row ∈ taken := by
    intro row member listed
    obtain ⟨other, present, same⟩ := List.mem_map.mp listed
    exact List.inj_on_of_nodup_map unique (sublist.subset present) member same ▸ present
  refine ⟨_, _, claimed, by simpa using bound, ?_, ?_, ?_⟩
  · refine sound.withSomeRows (leaseIf_relaying _ _) fun row member => ?_
    unfold leaseIf
    split
    · next listed =>
        have claimable := claimables row (own row member listed)
        exact .inr ⟨(sound.coherent row member).markProcessing claimable, nofun⟩
    · exact .inl rfl
  · have leased : taken.map (·.markProcessing now) = taken.map (leaseIf (taken.map (·.id)) now) :=
      List.map_congr_left fun row member => (if_pos (List.mem_map_of_mem member)).symm
    rw [leased]
    exact sublist.map _
  · intro row member
    obtain ⟨earlier, -, rfl⟩ := List.mem_map.mp member
    rfl

theorem Sound.handed (sound : relay.Sound dispatcher) (member : row ∈ relay.store.outbox)
    (handover : Handover) :
    relay.Follows dispatcher { relay with broker := (handover.publish relay.broker row).2 } := by
  obtain ⟨-, same⟩ | ⟨message, is, more⟩ := handover.publish_cases relay.broker row
  · refine ⟨⟨sound.issued, sound.coherent, ?_, ?_⟩, List.prefix_refl _⟩
    · rw [same]
      exact sound.accepted
    · rw [same]
      exact sound.announced
  · refine ⟨⟨sound.issued, sound.coherent, ?_, ?_⟩, List.prefix_refl _⟩
    · intro other present published
      obtain ⟨earlier, sent, was⟩ := sound.accepted other present published
      rw [more]
      exact ⟨earlier, List.mem_append_left _ sent, was⟩
    · intro other sent
      rw [more] at sent
      obtain earlier | new := List.mem_append.mp sent
      · exact sound.announced other earlier
      · exact ⟨row, member, List.mem_singleton.mp new ▸ is⟩

theorem Sound.settle {result : Except BrokerError Unit} (sound : relay.Sound dispatcher)
    (member : row ∈ relay.store.outbox) (leased : row.status = .processing)
    (taken : result = .ok () → ∃ message ∈ relay.broker.messages, message.IsOf row)
    (now : Instant) :
    relay.Follows dispatcher
      { relay with store := relay.store.withRows (settleIf dispatcher row result now) } := by
  -- No other row has the name of the one that is settled.
  have only : ∀ other ∈ relay.store.outbox, other.id = row.id → other = row :=
    fun _ present => List.inj_on_of_nodup_map sound.issued.1 present member
  refine sound.withRows (settleIf_relaying _ _ _ _) ?_ ?_
  · intro other present
    unfold settleIf
    split
    · next same =>
        obtain rfl := only other present same
        exact (sound.coherent other present).settled leased
    · exact sound.coherent other present
  · intro other present published
    unfold settleIf at published
    split at published
    · next same =>
        obtain rfl := only other present same
        cases result with
        | ok => exact .inr (taken rfl)
        | error error => exact absurd published (settled_error error).1
    · exact .inl published

theorem Holds.settle {result : Except BrokerError Unit} (held : relay.Holds (row :: rest))
    (unique : (relay.store.outbox.map (·.id)).Nodup) (dispatcher : DispatcherSetup) (now : Instant)
    (broker : Broker) :
    Holds ⟨relay.store.withRows (settleIf dispatcher row result now), broker⟩ rest where
  sublist := by
    have distinct := unique.sublist (held.sublist.map (·.id))
    rw [List.map_cons, List.nodup_cons] at distinct
    have others : rest.map (settleIf dispatcher row result now) = rest := by
      refine (List.map_congr_left fun other listed => if_neg fun same => ?_).trans (List.map_id' _)
      exact distinct.1 (List.mem_map.mpr ⟨other, listed, same⟩)
    rw [← others]
    exact ((List.sublist_cons_self row rest).trans held.sublist).map _
  leased other listed := held.leased other (List.mem_cons_of_mem _ listed)

/-- The outcome of a row that is held can be recorded, and the others are held on. -/
theorem Sound.recorded (sound : relay.Sound dispatcher) (held : relay.Holds (row :: rest))
    (handover : Handover) (report : DispatchReport) (now : Instant) :
    ∃ counted store, relay.store.perform (dispatcher.settle row
        (handover.publish relay.broker row).1 report now) = (.ok counted, store) ∧
      counted.claimed = report.claimed ∧ counted.outcomes = report.outcomes + 1 ∧
      relay.Follows dispatcher ⟨store, (handover.publish relay.broker row).2⟩ ∧
      Holds ⟨store, (handover.publish relay.broker row).2⟩ rest := by
  have unique := sound.issued.1
  have member : row ∈ relay.store.outbox := held.sublist.subset List.mem_cons_self
  have handed := sound.handed member handover
  have taken : (handover.publish relay.broker row).1 = .ok () →
      ∃ message ∈ (handover.publish relay.broker row).2.messages, message.IsOf row := by
    intro done
    obtain ⟨refused, -⟩ | ⟨message, is, more⟩ := handover.publish_cases relay.broker row
    · exact absurd done refused
    · rw [more]
      exact ⟨message, List.mem_append_right _ List.mem_cons_self, is⟩
  obtain ⟨counted, settled⟩ := Store.perform_settle dispatcher report
    (handover.publish relay.broker row).1 now unique (Store.outboxRow?_of_mem unique member)
  obtain ⟨claimed, outcomes⟩ := DispatcherSetup.settle_counts (Store.perform_ok_iff.mp settled)
  have follows := handed.sound.settle member (held.leased row List.mem_cons_self) taken now
  exact ⟨counted, _, settled, claimed, outcomes, handed.trans follows,
    held.settle unique dispatcher now _⟩

/-- How a cycle ends that has claimed so many rows at most. -/
structure Ends (dispatcher : DispatcherSetup) (relay : Relay) (rows : Nat) (attempts : List Attempt)
    (ended : Relay × Option DispatchReport) : Prop where
  follows : relay.Follows dispatcher ended.1
  reports : rows ≤ attempts.length → (∀ attempt ∈ attempts, attempt.recorded.isSome) →
    ended.2.isSome
  balanced : ∀ report ∈ ended.2, report.claimed = report.outcomes

theorem publishRows_ends (sound : relay.Sound dispatcher) {rows : List OutboxRow}
    (held : relay.Holds rows) {report : DispatchReport}
    (counts : report.claimed = report.outcomes + rows.length) (attempts : List Attempt) :
    relay.Ends dispatcher rows.length attempts
      (relay.publishRows dispatcher report rows attempts) := by
  -- The induction is over the rows that were claimed: those still to come stay held, and the report
  -- lacks just their outcomes.
  induction rows generalizing relay report attempts with
  | nil =>
      refine ⟨sound.follows, fun _ _ => rfl, ?_⟩
      rintro _ ⟨⟩
      exact counts
  | cons row rest ih =>
      cases attempts with
      | nil => exact ⟨sound.follows, fun enough => absurd enough (Nat.not_succ_le_zero _), nofun⟩
      | cons attempt attempts =>
          obtain ⟨handover, recorded⟩ := attempt
          cases recorded with
          | none =>
              have member : row ∈ relay.store.outbox := held.sublist.subset List.mem_cons_self
              refine ⟨sound.handed member handover, fun _ done => ?_, nofun⟩
              exact absurd (done _ List.mem_cons_self) nofun
          | some now =>
              obtain ⟨counted, store, settled, claimed, outcomes, follows, others⟩ :=
                sound.recorded held handover report now
              have counts : counted.claimed = counted.outcomes + rest.length := by
                rw [claimed, counts, outcomes, List.length_cons]
                omega
              have ends := ih follows.sound others counts attempts
              have next : relay.publishRows dispatcher report (row :: rest)
                  (⟨handover, some now⟩ :: attempts) = publishRows dispatcher
                    ⟨store, (handover.publish relay.broker row).2⟩ counted rest attempts := by
                simp only [publishRows, settled]
              rw [next]
              refine ⟨follows.trans ends.follows, fun enough done => ?_, ends.balanced⟩
              exact ends.reports (Nat.le_of_succ_le_succ enough)
                fun attempt member => done attempt (List.mem_cons_of_mem _ member)

theorem dispatch_ends (sound : relay.Sound dispatcher) (now : Instant) (attempts : List Attempt) :
    relay.Ends dispatcher dispatcher.batch attempts (relay.dispatch dispatcher now attempts) := by
  obtain ⟨reclaimed, store, reclaims⟩ : ∃ reclaimed store, relay.store.perform
      (Store.reclaimStale dispatcher.lease now) = (.ok reclaimed, store) := ⟨_, _, rfl⟩
  have returned := sound.reclaim dispatcher.lease now
  rw [perform, reclaims] at returned
  obtain ⟨rows, after, claims, bound, follows, held⟩ :=
    returned.sound.claim dispatcher.batch now
  have counts : ({ reclaimed, claimed := rows.length } : DispatchReport).claimed =
      ({ reclaimed, claimed := rows.length } : DispatchReport).outcomes + rows.length :=
    (Nat.zero_add _).symm
  have ends := publishRows_ends follows.sound held counts attempts
  have cycle : relay.dispatch dispatcher now attempts = publishRows dispatcher
      { relay with store := after } { reclaimed, claimed := rows.length } rows attempts := by
    simp only [dispatch, reclaims, claims]
  rw [cycle]
  exact ⟨(returned.trans follows).trans ends.follows, fun enough => ends.reports (bound.trans enough),
    ends.balanced⟩

theorem step_follows (sound : relay.Sound dispatcher)
    (positive : 0 < dispatcher.schedule.maxAttempts) (step : RelayStep) :
    relay.Follows dispatcher (relay.step dispatcher step) := by
  cases step with
  | enqueue request => exact sound.enqueue positive request
  | dispatch now attempts => exact (dispatch_ends sound now attempts).follows
  | abandon limit now =>
      obtain ⟨rows, store, claims, -, follows, -⟩ := sound.claim limit now
      rw [Relay.step, perform, claims]
      exact follows
  | reclaim lease now => exact sound.reclaim lease now
  | requeue ids now => exact sound.requeue positive ids now
  | refuse failing =>
      exact ⟨⟨sound.issued, sound.coherent, sound.accepted, sound.announced⟩, List.prefix_refl _⟩

theorem afterAll_follows (sound : relay.Sound dispatcher)
    (positive : 0 < dispatcher.schedule.maxAttempts) (run : List RelayStep) :
    relay.Follows dispatcher (relay.afterAll dispatcher run) := by
  induction run generalizing relay with
  | nil => exact sound.follows
  | cons step run ih =>
      have first := step_follows sound positive step
      exact first.trans (ih first.sound)

theorem reached_sound (positive : 0 < dispatcher.schedule.maxAttempts) (run : List RelayStep) :
    (reached dispatcher run).Sound dispatcher :=
  (afterAll_follows (empty_sound dispatcher) positive run).sound

/-- Rows stay, in their order, as they were made.  The fields that tell how far the delivery of a
row has come agree with its status: it is leased while it is processed, it has a time of delivery
exactly if it was delivered, and it has failed as often as it may exactly if it was set aside.  The
broker took each row that was delivered, and took nothing but rows.  A cycle in which the dispatcher
does not stop ends with a report, and in each report every row that was claimed has its outcome.
The cycles of an engine are among these. -/
theorem relayed_rows_keep_their_states {dispatcher : DispatcherSetup}
    (positive : 0 < dispatcher.schedule.maxAttempts) (run : List RelayStep) :
    (∀ later, (reached dispatcher run).store.outbox.map asMade <+:
      (reached dispatcher (run ++ later)).store.outbox.map asMade) ∧
    (∀ row ∈ (reached dispatcher run).store.outbox,
      row.Coherent dispatcher.schedule.maxAttempts ∧ (row.status = .published →
        ∃ message ∈ (reached dispatcher run).broker.messages, message.IsOf row)) ∧
    (∀ message ∈ (reached dispatcher run).broker.messages,
      ∃ row ∈ (reached dispatcher run).store.outbox, message.IsOf row) ∧
    (∀ now attempts,
      (dispatcher.batch ≤ attempts.length → (∀ attempt ∈ attempts, attempt.recorded.isSome) →
        ((reached dispatcher run).dispatch dispatcher now attempts).2.isSome) ∧
      ∀ report ∈ ((reached dispatcher run).dispatch dispatcher now attempts).2,
        report.claimed = report.published + report.failed + report.dead) ∧
    ∀ (engine : Engine) (now : Instant), engine.relay = reached dispatcher run →
      (dispatcher.dispatch now).Ensures engine fun result after =>
        (∃ report, result = .ok (.ok report)) ∧ after.relay =
          reached dispatcher (run ++ [.dispatch now (answered now dispatcher.batch)]) := by
  have sound := reached_sound positive run
  refine ⟨?_, ?_, sound.announced, ?_, ?_⟩
  · intro later
    rw [reached_append]
    exact (afterAll_follows sound positive later).made
  · intro row member
    exact ⟨sound.coherent row member, sound.accepted row member⟩
  · intro now attempts
    have ends := dispatch_ends sound now attempts
    exact ⟨ends.reports, ends.balanced⟩
  · intro engine now same
    refine (dispatch_ensures dispatcher engine now).mono fun result after cycle => ?_
    rw [same] at cycle
    have reports := (dispatch_ends sound now (answered now dispatcher.batch)).reports
      (by simp [answered]) (by simp [answered])
    rw [cycle] at reports
    refine ⟨reported?_isSome reports, ?_⟩
    rw [reached_append]
    exact (congrArg Prod.fst cycle).symm

end Relay

/-! In the sample a dispatcher gives up after the first failure. -/

namespace Sample

def hasty : DispatcherSetup := { schedule := { maxAttempts := 1 } }

/-- Of the rows of a new order the broker takes the first, and the second is set aside. -/
def halfRelayed : List RelayStep :=
  [.enqueue (.seed "a-1" "USDT" (units 1000) start),
    .enqueue (.settle (.create purchase) terms start),
    .dispatch (minute 0) [⟨.answered, some (minute 0)⟩,
      ⟨.lost (.connection "timeout"), some (minute 0)⟩]]

/-- The second row is queued again, left behind by one dispatcher and taken by the next. -/
def requeued : List RelayStep :=
  [.requeue none (minute 1), .abandon 1 (minute 1),
    .dispatch (minute 9) [⟨.answered, some (minute 9)⟩]]

end Sample

namespace Relay

/-- The row that is set aside has used its attempts, the other is at the broker, and both keep their
places when the first is queued again. -/
theorem sample_relayed_rows_keep_their_states :
    0 < Sample.hasty.schedule.maxAttempts ∧
    (∃ row ∈ (reached Sample.hasty Sample.halfRelayed).store.outbox,
      row.status = .dead ∧ row.attempts = Sample.hasty.schedule.maxAttempts) ∧
    (∃ row ∈ (reached Sample.hasty Sample.halfRelayed).store.outbox, row.status = .published ∧
      ∃ message ∈ (reached Sample.hasty Sample.halfRelayed).broker.messages, message.IsOf row) ∧
    (reached Sample.hasty Sample.halfRelayed).store.outbox.map (·.asMade) <+:
      (reached Sample.hasty (Sample.halfRelayed ++ Sample.requeued)).store.outbox.map (·.asMade) := by
  have positive : 0 < Sample.hasty.schedule.maxAttempts := by decide
  have dead : ∃ row ∈ (reached Sample.hasty Sample.halfRelayed).store.outbox,
      row.status = .dead := by decide +kernel
  have delivered : ∃ row ∈ (reached Sample.hasty Sample.halfRelayed).store.outbox,
      row.status = .published := by decide +kernel
  have keeps := relayed_rows_keep_their_states positive Sample.halfRelayed
  obtain ⟨row, member, aside⟩ := dead
  obtain ⟨other, present, published⟩ := delivered
  refine ⟨positive, ⟨row, member, aside, ?_⟩, ⟨other, present, published, ?_⟩, ?_⟩
  · exact (keeps.2.1 row member).1.setAside.mp aside
  · exact (keeps.2.1 other present).2 published
  · exact keeps.1 Sample.requeued

end Relay

end SpotSettlement
