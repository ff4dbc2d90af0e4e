import SpotSettlement.Proofs.Delivery.Cycles
import SpotSettlement.Proofs.Delivery.Queue

namespace SpotSettlement

/-! # Delivery in order

While one dispatcher is at work, nothing fails and time does not go back, the rows of the outbox are
delivered in the order in which they were added, each of them once.
-/

open OutboxRow

/-- The messages are those of the first rows, one of each, in their order. -/
def Relays (messages : List Message) (rows : List OutboxRow) : Prop :=
  List.Forall₂ Message.IsOf messages (rows.take messages.length)

theorem relays_iff {messages : List Message} {rows : List OutboxRow} :
    Relays messages rows ↔ ∃ sent, sent <+: rows ∧ List.Forall₂ Message.IsOf messages sent := by
  constructor
  · intro relays
    exact ⟨_, List.take_prefix _ _, relays⟩
  · rintro ⟨sent, first, are⟩
    rw [Relays, are.length_eq, ← List.prefix_iff_eq_take.mp first]
    exact are

/-- Of the rows of one kind, the first have been delivered too. -/
theorem Relays.filter {messages : List Message} {rows : List OutboxRow} {p : Message → Bool}
    {q : OutboxRow → Bool} (relays : Relays messages rows)
    (same : ∀ message row, Message.IsOf message row → p message = q row) :
    Relays (messages.filter p) (rows.filter q) := by
  obtain ⟨sent, first, are⟩ := relays_iff.mp relays
  refine relays_iff.mpr ⟨sent.filter q, first.filter q, ?_⟩
  exact List.rel_filter (fun _ _ is => Bool.eq_iff_iff.mp (same _ _ is)) are

/-- The rows that have still to be published. -/
def Store.unpublished (store : Store) : List OutboxRow :=
  store.outbox.filter (·.status != .published)

namespace Delivery

variable {setup : DeliverySetup} {state : Delivery} {dispatcher : Nat} {run : List DeliveryEvent}
  {now : Instant} {done waiting : List OutboxRow}

/-- Rows stay in their places, as they were made, and others are added behind them. -/
theorem reached_made (setup : DeliverySetup) (run later : List DeliveryEvent) :
    (reached setup run).store.outbox.map asMade <+:
      (reached setup (run ++ later)).store.outbox.map asMade := by
  induction later using List.reverseRecOn with
  | nil => rw [List.append_nil]
  | append_singleton later event ih =>
      obtain ⟨rows, outbox, -, -⟩ := step_adds_now setup (reached_issued setup _).1 event
      rw [← List.append_assoc, reached_concat, outbox, List.map_append, List.map_map]
      have same : asMade ∘ (reached setup (run ++ later)).change setup event = asMade :=
        funext ((reached setup (run ++ later)).change_relaying setup event)
      rw [same]
      exact ih.trans (List.prefix_append _ _)

theorem Queue.taken_prefix (queue : state.Queue dispatcher done waiting) :
    done ++ (state.phases dispatcher).taken <+: state.store.outbox := by
  rw [queue.outbox]
  refine (List.prefix_append_right_inj done).mpr ?_
  cases state.phases dispatcher with
  | reporting row result rest => exact ⟨rest ++ waiting, rfl⟩
  | _ => exact List.nil_prefix

theorem Queue.relays (queue : state.Queue dispatcher done waiting) :
    Relays state.broker.messages state.store.outbox :=
  relays_iff.mpr ⟨_, queue.taken_prefix, queue.messages⟩

theorem Queue.unpublished (queue : state.Queue dispatcher done waiting) :
    state.store.unpublished = (state.phases dispatcher).held ++ waiting := by
  have gone : done.filter (·.status != .published) = [] :=
    List.filter_eq_nil_iff.mpr fun row member => by simp [queue.published row member]
  rw [Store.unpublished, queue.outbox, List.filter_append, gone, List.nil_append,
    List.filter_eq_self]
  intro row member
  obtain held | waits := List.mem_append.mp member
  · rw [queue.leased row held]
    rfl
  · rw [← queue.fresh row waits]
    rfl

/-- Between cycles the messages are those of the rows that are done with. -/
theorem Queue.delivered (queue : state.Queue dispatcher done waiting)
    (free : (state.phases dispatcher).held = []) :
    state.broker.messages.length = done.length := by
  have none : (state.phases dispatcher).taken = [] := by
    cases phase : state.phases dispatcher with
    | reporting => simp [phase, DispatchPhase.held] at free
    | _ => rfl
  rw [queue.messages.length_eq, none, List.append_nil]

/-- As many rows are done with or held as before, as long as none is claimed. -/
theorem reached_total {before during : List DeliveryEvent}
    (undisturbed : start.Undisturbed setup dispatcher (before ++ during))
    (steady : Steady (before ++ during)) (noClaim : .claim dispatcher ∉ during)
    (queue : (reached setup before).Queue dispatcher done waiting) :
    ∃ more rest, (reached setup (before ++ during)).Queue dispatcher more rest ∧
      more.length + ((reached setup (before ++ during)).phases dispatcher).held.length =
        done.length + ((reached setup before).phases dispatcher).held.length := by
  induction during using List.reverseRecOn with
  | nil => exact ⟨done, waiting, by simpa using queue, by simp⟩
  | append_singleton during event ih =>
      rw [← List.append_assoc] at undisturbed steady ⊢
      obtain ⟨earlier, calm, -⟩ := (undisturbed_append _ [event]).mp undisturbed
      obtain ⟨absent, other⟩ : .claim dispatcher ∉ during ∧ event ≠ .claim dispatcher := by
        simpa [eq_comm] using noClaim
      obtain ⟨most, others, middle, total⟩ := ih earlier steady.concat.1 absent
      obtain ⟨more, rest, after, kept⟩ := middle.step (reached_issued setup _).1
        (reached_chronological setup steady.concat.1) calm
      rw [reached_concat]
      exact ⟨more, rest, after, (kept other).trans total⟩

/-- A cycle delivers a batch of the rows that are due when it claims, or all of them if there are
fewer. -/
theorem cycle_delivers {before during : List DeliveryEvent}
    (undisturbed : start.Undisturbed setup dispatcher (before ++ .claim dispatcher :: during))
    (steady : Steady (before ++ .claim dispatcher :: during))
    (claiming : (reached setup before).phases dispatcher = .reclaimed now)
    (noClaim : .claim dispatcher ∉ during)
    (idle : (reached setup (before ++ .claim dispatcher :: during)).phases dispatcher = .idle) :
    (reached setup (before ++ .claim dispatcher :: during)).broker.messages.length =
      (reached setup before).broker.messages.length + min setup.dispatcher.batch
        ((reached setup before).store.unpublished.filter (·.createdAt ≤ now)).length := by
  rw [List.append_cons] at undisturbed steady idle ⊢
  have first := ((undisturbed_append _ during).mp undisturbed).1
  have earlier := ((undisturbed_append before [.claim dispatcher]).mp first).1
  have steadyBefore : Steady before := steady.of_append.of_append
  obtain ⟨done, waiting, queue⟩ := reached_queue earlier steadyBefore
  have chronological := reached_chronological setup steadyBefore
  obtain ⟨due, late, rfl, allDue, allLate⟩ := exists_due now (queue.sorted chronological)
  obtain ⟨holds, claimed⟩ := queue.claim claiming allDue allLate
  rw [← reached_concat] at holds claimed
  obtain ⟨more, rest, after, total⟩ := reached_total undisturbed steady noClaim claimed
  have counted : (reached setup before).store.unpublished.filter (·.createdAt ≤ now) = due := by
    have ofDue := List.filter_eq_self.mpr fun row member => decide_eq_true (allDue row member)
    have ofLate : late.filter (fun row => decide (row.createdAt ≤ now)) = [] :=
      List.filter_eq_nil_iff.mpr fun row member => by simpa using allLate row member
    rw [queue.unpublished, claiming, DispatchPhase.held, List.nil_append, List.filter_append,
      ofLate, List.append_nil, ofDue]
  rw [holds, DispatchPhase.held_ofRows, List.length_map, List.length_take, idle,
    DispatchPhase.held, List.length_nil, Nat.add_zero] at total
  have free : ((reached setup before).phases dispatcher).held = [] := by rw [claiming]; rfl
  rw [after.delivered (by rw [idle]; rfl), queue.delivered free, counted, total]

open Activity Engine

theorem perform_settle_ok {store : Store} {row : OutboxRow} (dispatcher : DispatcherSetup)
    (report : DispatchReport) (now : Instant) (unique : (store.outbox.map (·.id)).Nodup)
    (present : (store.outboxRow? row.id).isSome) :
    store.perform (dispatcher.settle row (.ok ()) report now) =
      (.ok { report with published := report.published + 1 },
        store.withRows (settleIf dispatcher row (.ok ()) now)) := by
  obtain ⟨found, lookup⟩ := Option.isSome_iff_exists.mp present
  obtain ⟨counted, settled⟩ := Store.perform_settle dispatcher report (.ok ()) now unique lookup
  have done := Store.perform_ok_iff.mp settled
  simp only [DispatcherSetup.settle, Work.bind_ok, Work.pure_ok] at done
  obtain ⟨_, _, -, rfl, -⟩ := done
  exact settled

/-- While the broker takes what it is given, all rows that were claimed are published. -/
theorem publishRows_publishes (dispatcher : DispatcherSetup) (now : Instant) (rows : List OutboxRow)
    (report : DispatchReport) (engine : Engine)
    (unique : (engine.store.outbox.map (·.id)).Nodup)
    (present : ∀ row ∈ rows, (engine.store.outboxRow? row.id).isSome)
    (up : engine.broker.failing = false) :
    (dispatcher.publishRows now report rows).Ensures engine fun result after =>
      result = .ok (.ok { report with published := report.published + rows.length }) ∧
        after.broker.messages.length = engine.broker.messages.length + rows.length := by
  induction rows generalizing report engine with
  | nil => exact ⟨rfl, rfl⟩
  | cons row rest ih =>
      obtain ⟨first, others⟩ := List.forall_mem_cons.mp present
      have taken : engine.broker.publish row.topic row.partitionKey row.payload =
          (.ok (), { engine.broker with messages := engine.broker.messages ++
            [⟨engine.broker.messages.length + 1, row.topic, row.partitionKey, row.payload⟩] }) := by
        simp only [Broker.publish, up, Bool.false_eq_true, if_false]
      unfold DispatcherSetup.publishRows
      refine ensures_bind (publish_ensures row ?_)
      rw [taken]
      refine ensures_bind (perform_ensures_done
        (perform_settle_ok dispatcher report now unique first) ?_)
      have relaying := settleIf_relaying dispatcher row (.ok ()) now
      let sent : Engine := { engine with
        store := engine.store.withRows (settleIf dispatcher row (.ok ()) now)
        broker := { engine.broker with messages := engine.broker.messages ++
          [⟨engine.broker.messages.length + 1, row.topic, row.partitionKey, row.payload⟩] } }
      have uniqueThen : (sent.store.outbox.map (·.id)).Nodup := by
        rw [Store.ids_withRows relaying]
        exact unique
      have presentThen : ∀ other ∈ rest, (sent.store.outboxRow? other.id).isSome := by
        intro other member
        rw [Store.outboxRow?_withRows relaying, Option.isSome_map]
        exact others other member
      have next := ih { report with published := report.published + 1 } sent uniqueThen presentThen
      refine (next up).mono ?_
      rintro result after ⟨rfl, length⟩
      have total (count : Nat) : count + 1 + rest.length = count + (row :: rest).length := by
        rw [List.length_cons, Nat.add_assoc, Nat.add_comm 1]
      refine ⟨by rw [total], length.trans ?_⟩
      rw [← total, List.length_append]
      rfl

/-- A cycle in one go publishes a batch, or all there is if that is less. -/
theorem Queue.dispatch_publishes (queue : state.Queue dispatcher done waiting)
    (idle : state.phases dispatcher = .idle) (unique : (state.store.outbox.map (·.id)).Nodup)
    (timely : ∀ row ∈ waiting, row.createdAt ≤ now) (up : state.broker.failing = false)
    (setup : DispatcherSetup) :
    (setup.dispatch now).Ensures state.engine fun result engine =>
      result = .ok (.ok { claimed := min setup.batch waiting.length
                          published := min setup.batch waiting.length }) ∧
        engine.broker.messages.length =
          state.broker.messages.length + min setup.batch waiting.length := by
  have free : (state.phases dispatcher).held = [] := by rw [idle]; rfl
  have all : state.Queue dispatcher done (waiting ++ []) := by rwa [List.append_nil]
  obtain ⟨rows, after, claims, count⟩ : ∃ rows after,
      state.store.perform (Store.claimBatch setup.batch now) = (.ok rows, after) ∧
        rows.length = min setup.batch waiting.length := by
    refine ⟨_, _, all.claims free setup.batch timely (List.forall_mem_nil _), ?_⟩
    rw [List.length_map, List.length_take]
  obtain ⟨uniqueThen, present⟩ := Store.claimBatch_present unique claims
  unfold DispatcherSetup.dispatch
  refine ensures_bind (perform_ensures_done (queue.reclaims_none free setup.lease now) ?_)
  refine ensures_bind (perform_ensures_done claims ?_)
  have published := publishRows_publishes setup now rows { claimed := rows.length }
    { state.engine with store := after } uniqueThen present up
  refine published.mono ?_
  rintro result engine ⟨rfl, total⟩
  rw [count] at total
  rw [count, Nat.zero_add]
  exact ⟨rfl, total⟩

/-- What a dispatcher does while the broker gives its answers. -/
inductive OfCycle (dispatcher : Nat) : DeliveryEvent → Prop
  | reclaim (now : Instant) : OfCycle dispatcher (.reclaim dispatcher now)
  | claim : OfCycle dispatcher (.claim dispatcher)
  | publish : OfCycle dispatcher (.publish dispatcher .answered)
  | report (now : Instant) : OfCycle dispatcher (.report dispatcher now)

theorem ofCycle_of_mem (setup : DeliverySetup) (dispatcher : Nat) (now : Instant) :
    ∀ event ∈ cycle setup dispatcher now, OfCycle dispatcher event ∧
      ∀ moment, event.moment? = some moment → moment = now := by
  intro event member
  simp only [cycle, publishing, List.cons_append, List.nil_append, List.mem_cons,
    List.mem_flatten, List.mem_replicate] at member
  obtain rfl | rfl | ⟨_, ⟨-, rfl⟩, member⟩ := member
  · exact ⟨.reclaim now, fun _ told => (Option.some.inj told).symm⟩
  · exact ⟨.claim, by simp [DeliveryEvent.moment?]⟩
  · obtain rfl | rfl : event = .publish dispatcher .answered ∨ event = .report dispatcher now := by
      simpa using member
    · exact ⟨.publish, by simp [DeliveryEvent.moment?]⟩
    · exact ⟨.report now, fun _ told => (Option.some.inj told).symm⟩

theorem OfCycle.calm (own : OfCycle dispatcher event) (up : state.broker.failing = false)
    (setup : DeliverySetup) :
    state.Calm dispatcher event ∧ (state.step setup event).broker.failing = false := by
  cases own with
  | publish =>
      have arrives (row : OutboxRow) : (Handover.answered.publish state.broker row).1 = .ok () ∧
          (Handover.answered.publish state.broker row).2.failing = false := by
        simp [Handover.publish, Broker.publish, up]
      refine ⟨⟨rfl, fun row _ _ => (arrives row).1⟩, ?_⟩
      simp only [step]
      split
      · exact (arrives _).2
      · exact up
  | _ =>
      refine ⟨rfl, ?_⟩
      simp only [step]
      repeat' split
      all_goals exact up

theorem undisturbed_of_own (setup : DeliverySetup) (up : state.broker.failing = false)
    (own : ∀ event ∈ run, OfCycle dispatcher event) :
    state.Undisturbed setup dispatcher run := by
  induction run generalizing state with
  | nil => exact trivial
  | cons event rest ih =>
      obtain ⟨first, others⟩ := List.forall_mem_cons.mp own
      obtain ⟨calm, stays⟩ := first.calm up setup
      exact ⟨calm, ih stays others⟩

theorem Steady.append_cycle (steady : Steady run) (latest : ∀ moment ∈ moments run, moment ≤ now)
    (setup : DeliverySetup) (dispatcher : Nat) : Steady (run ++ cycle setup dispatcher now) := by
  have all : ∀ moment ∈ moments (cycle setup dispatcher now), moment = now := by
    intro moment member
    obtain ⟨event, listed, told⟩ := List.mem_filterMap.mp member
    exact (ofCycle_of_mem setup dispatcher now event listed).2 moment told
  rw [Steady, moments, List.filterMap_append]
  refine List.pairwise_append.mpr ⟨steady, ?_, ?_⟩
  · refine List.pairwise_of_forall_mem_list fun moment member other listed => ?_
    rw [all moment member, all other listed]
    exact Int.le_refl _
  · intro moment member other listed
    rw [all other listed]
    exact latest moment member

/-- Between cycles the dispatcher may make one more in one go, which publishes a batch of the rows
that are still to be published, or all of them if there are fewer. -/
theorem whole_cycle_delivers (undisturbed : start.Undisturbed setup dispatcher run)
    (steady : Steady run) (idle : (reached setup run).phases dispatcher = .idle)
    (latest : ∀ moment ∈ moments run, moment ≤ now)
    (up : (reached setup run).broker.failing = false) :
    start.Undisturbed setup dispatcher (run ++ cycle setup dispatcher now) ∧
      Steady (run ++ cycle setup dispatcher now) ∧
      (setup.dispatcher.dispatch now).Ensures (reached setup run).engine fun result engine =>
        reached setup (run ++ cycle setup dispatcher now) = { reached setup run with engine } ∧
        ∃ count, count = min setup.dispatcher.batch (reached setup run).store.unpublished.length ∧
          result = .ok (.ok { claimed := count, published := count }) ∧
          engine.broker.messages.length = (reached setup run).broker.messages.length + count := by
  obtain ⟨done, waiting, queue⟩ := reached_queue undisturbed steady
  have own := undisturbed_of_own setup up fun event member =>
    (ofCycle_of_mem setup dispatcher now event member).1
  refine ⟨(undisturbed_append run _).mpr ⟨undisturbed, own⟩, steady.append_cycle latest setup _, ?_⟩
  have chronological := reached_chronological setup steady
  have timely : ∀ row ∈ waiting, row.createdAt ≤ now := by
    intro row member
    refine latest _ (chronological.known row ?_)
    rw [queue.outbox]
    exact List.mem_append_right _ (List.mem_append_right _ member)
  have total : (reached setup run).store.unpublished.length = waiting.length := by
    rw [queue.unpublished, idle, DispatchPhase.held, List.nil_append]
  have events : (setup.dispatcher.dispatch now).Ensures (reached setup run).engine fun _ engine =>
      (reached setup run).afterAll setup (cycle setup dispatcher now) =
        { reached setup run with engine } := dispatch_ensures idle now
  have published := queue.dispatch_publishes idle (reached_issued setup run).1 timely up
    setup.dispatcher
  rw [← total] at published
  refine (events.and published).mono fun result engine both => ?_
  exact ⟨(afterAll_append run _).trans both.1, _, rfl, both.2⟩

/-- While one dispatcher is at work, nothing fails and time does not go back, the broker has the
messages of the first rows of the outbox, one of each, in the order in which they were added; so it
is in each topic, and for each key.  Every cycle delivers a batch of the rows that are still to be
published and due, or all of them if there are fewer, and in a cycle that is made in one go all of
them are due. -/
theorem rows_are_delivered_in_order (undisturbed : start.Undisturbed setup dispatcher run)
    (steady : Steady run) :
    ((reached setup run).store.outbox.map (·.id)).Nodup ∧
    (∀ later, (reached setup run).store.outbox.map asMade <+:
      (reached setup (run ++ later)).store.outbox.map asMade) ∧
    Relays (reached setup run).broker.messages (reached setup run).store.outbox ∧
    (∀ topic, Relays ((reached setup run).broker.messagesOf topic)
      ((reached setup run).store.outbox.filter (·.topic == topic))) ∧
    (∀ key, Relays ((reached setup run).broker.messages.filter (·.key == key))
      ((reached setup run).store.outbox.filter (·.partitionKey == key))) ∧
    (∀ before during now, run = before ++ .claim dispatcher :: during →
      .claim dispatcher ∉ during → (reached setup before).phases dispatcher = .reclaimed now →
      (reached setup run).phases dispatcher = .idle →
      (reached setup run).broker.messages.length =
        (reached setup before).broker.messages.length + min setup.dispatcher.batch
          ((reached setup before).store.unpublished.filter (·.createdAt ≤ now)).length) ∧
    ∀ now, (reached setup run).phases dispatcher = .idle → (∀ moment ∈ moments run, moment ≤ now) →
      (reached setup run).broker.failing = false →
      start.Undisturbed setup dispatcher (run ++ cycle setup dispatcher now) ∧
      Steady (run ++ cycle setup dispatcher now) ∧
      (setup.dispatcher.dispatch now).Ensures (reached setup run).engine fun result engine =>
        reached setup (run ++ cycle setup dispatcher now) = { reached setup run with engine } ∧
        ∃ count, count = min setup.dispatcher.batch (reached setup run).store.unpublished.length ∧
          result = .ok (.ok { claimed := count, published := count }) ∧
          engine.broker.messages.length = (reached setup run).broker.messages.length + count := by
  obtain ⟨done, waiting, queue⟩ := reached_queue undisturbed steady
  have relays := queue.relays
  refine ⟨(reached_issued setup run).1, reached_made setup run, relays, ?_, ?_, ?_, ?_⟩
  · intro topic
    exact relays.filter fun message row is => congrArg (· == topic) is.topic
  · intro key
    exact relays.filter fun message row is => congrArg (· == key) is.key
  · rintro before during now rfl noClaim claiming idle
    exact cycle_delivers undisturbed steady claiming noClaim idle
  · intro now idle latest up
    exact whole_cycle_delivers undisturbed steady idle latest up

end Delivery

namespace Sample

/-- The dispatcher has published both rows of the new order. -/
def drained : List DeliveryEvent := published ++ [.publish 0 .answered, .report 0 (minute 0)]

end Sample

namespace Delivery

/-- The broker has both messages, in the order of the rows. -/
theorem sample_rows_are_delivered_in_order :
    start.Undisturbed Sample.delivery 0 Sample.drained ∧ Steady Sample.drained ∧
    (reached Sample.delivery Sample.drained).broker.messages.length = 2 ∧
    Relays (reached Sample.delivery Sample.drained).broker.messages
      (reached Sample.delivery Sample.drained).store.outbox := by
  have own : ∀ event ∈ [.reclaim 0 (Sample.minute 0), .claim 0, .publish 0 .answered,
      .report 0 (Sample.minute 0), .publish 0 .answered, .report 0 (Sample.minute 0)],
      OfCycle 0 event := by
    simp only [List.forall_mem_cons]
    exact ⟨.reclaim _, .claim, .publish, .report _, .publish, .report _, List.forall_mem_nil _⟩
  have undisturbed : start.Undisturbed Sample.delivery 0 Sample.drained :=
    ⟨trivial, trivial, undisturbed_of_own _ rfl own⟩
  have steady : Steady Sample.drained := by
    unfold Steady
    decide
  refine ⟨undisturbed, steady, by decide +kernel, ?_⟩
  exact (rows_are_delivered_in_order undisturbed steady).2.2.1

end Delivery

end SpotSettlement
