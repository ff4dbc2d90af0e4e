import Mathlib.Data.List.Forall2
import SpotSettlement.Proofs.Broker.Groups
import SpotSettlement.Proofs.Delivery.Rows
import SpotSettlement.Proofs.Delivery.RelayStates

namespace SpotSettlement

/-! # The outbox as a queue

While one dispatcher is at work, nothing fails and time does not go back, the outbox is a queue:
rows are added behind, and taken from the front.
-/

open OutboxRow

namespace Store

variable {now : Instant} {rows due late : List OutboxRow}

theorem claimRows_refused (limit : Nat) (refused : ∀ row ∈ rows, claimable now row = false) :
    claimRows now limit rows = ([], rows) := by
  induction rows with
  | nil => cases limit <;> rfl
  | cons row rest ih =>
      obtain ⟨first, others⟩ := List.forall_mem_cons.mp refused
      cases limit with
      | zero => rfl
      | succ limit => simp [claimRows, first, ih others]

theorem claimRows_append (limit : Nat) (refused : ∀ row ∈ rows, claimable now row = false)
    (rest : List OutboxRow) : claimRows now limit (rows ++ rest) =
      ((claimRows now limit rest).1, rows ++ (claimRows now limit rest).2) := by
  cases limit with
  | zero =>
      have none (rows : List OutboxRow) : claimRows now 0 rows = ([], rows) := by cases rows <;> rfl
      rw [none, none]
  | succ limit =>
      induction rows with
      | nil => rfl
      | cons row others ih =>
          obtain ⟨first, later⟩ := List.forall_mem_cons.mp refused
          simp [claimRows, first, ih later]

/-- Of rows of which the first may be claimed and the others may not, the first are claimed, at most
so many. -/
theorem claimRows_due (limit : Nat) (allowed : ∀ row ∈ due, claimable now row = true)
    (refused : ∀ row ∈ late, claimable now row = false) :
    claimRows now limit (due ++ late) = ((due.take limit).map (·.markProcessing now),
      (due.take limit).map (·.markProcessing now) ++ (due.drop limit ++ late)) := by
  induction due generalizing limit with
  | nil => simp [claimRows_refused limit refused]
  | cons row rest ih =>
      obtain ⟨first, others⟩ := List.forall_mem_cons.mp allowed
      cases limit with
      | zero => rfl
      | succ limit => simp [claimRows, first, ih limit others]

theorem perform_claimBatch_eq (store : Store) (limit : Nat) (now : Instant) :
    store.perform (claimBatch limit now) = (.ok (claimRows now limit store.outbox).1,
      { store with outbox := (claimRows now limit store.outbox).2 }) := rfl

/-- What was claimed is still in the outbox, and no identifier is there twice. -/
theorem claimBatch_present {store after : Store} {limit : Nat}
    (unique : (store.outbox.map (·.id)).Nodup)
    (claims : store.perform (claimBatch limit now) = (.ok rows, after)) :
    (after.outbox.map (·.id)).Nodup ∧ ∀ row ∈ rows, (after.outboxRow? row.id).isSome := by
  obtain ⟨taken, sublist, -, -, claimed⟩ := perform_claimBatch unique limit now
  obtain ⟨same, rfl⟩ := Prod.mk.inj (claimed.symm.trans claims)
  obtain rfl := Except.ok.inj same
  have relaying := leaseIf_relaying (taken.map (·.id)) now
  refine ⟨(ids_withRows relaying).symm ▸ unique, List.forall_mem_map.mpr fun row member => ?_⟩
  have present := outboxRow?_of_mem unique (sublist.subset member)
  rw [outboxRow?_withRows relaying, Option.isSome_map]
  exact Option.isSome_iff_exists.mpr ⟨row, present⟩

end Store

theorem OutboxRow.asMade_claimable {row : OutboxRow} (made : row.asMade = row) (now : Instant) :
    Store.claimable now row = decide (row.createdAt ≤ now) := by
  rw [← made]
  rfl

theorem Message.isOf_asMade {message : Message} {row : OutboxRow} :
    message.IsOf row.asMade ↔ message.IsOf row :=
  ⟨fun is => is.congr rfl, fun is => is.congr rfl⟩

/-- Of which rows messages are does not depend on how far their delivery has come. -/
theorem Message.forall₂_congr {messages : List Message} {rows others : List OutboxRow}
    (same : rows.map asMade = others.map asMade) (are : List.Forall₂ IsOf messages rows) :
    List.Forall₂ IsOf messages others := by
  have made : List.Forall₂ IsOf messages (rows.map asMade) :=
    List.forall₂_map_right_iff.mpr (are.imp fun _ _ => isOf_asMade.mpr)
  rw [same] at made
  exact (List.forall₂_map_right_iff.mp made).imp fun _ _ => isOf_asMade.mp

/-- If all rows but one have other identifiers, the report changes that row only. -/
theorem OutboxRow.map_settleIf {before after : List OutboxRow} {row : OutboxRow}
    (unique : ((before ++ row :: after).map (·.id)).Nodup) (dispatcher : DispatcherSetup)
    (result : Except BrokerError Unit) (now : Instant) :
    (before ++ row :: after).map (settleIf dispatcher row result now) =
      before ++ row.settled dispatcher row result now :: after := by
  rw [List.map_append, List.map_cons, List.nodup_middle, List.nodup_cons, List.mem_append,
    not_or] at unique
  obtain ⟨⟨notBefore, notBehind⟩, -⟩ := unique
  have others (rows : List OutboxRow) (different : row.id ∉ rows.map (·.id)) :
      rows.map (settleIf dispatcher row result now) = rows := by
    refine (List.map_congr_left fun other member => if_neg fun same => ?_).trans (List.map_id' _)
    exact different (List.mem_map.mpr ⟨other, member, same⟩)
  rw [List.map_append, List.map_cons, others before notBefore, others after notBehind, settleIf,
    if_pos rfl]

namespace DispatchPhase

/-- The row that the broker has taken and the dispatcher has still to report about. -/
def taken : DispatchPhase → List OutboxRow
  | .reporting row _ _ => [row]
  | _ => []

/-- The dispatcher has heard of no failure that it has still to report. -/
def Succeeds : DispatchPhase → Prop
  | .reporting _ result _ => result = .ok ()
  | _ => True

theorem taken_ofRows (rows : List OutboxRow) : (ofRows rows).taken = [] := by
  cases rows <;> rfl

theorem succeeds_ofRows (rows : List OutboxRow) : (ofRows rows).Succeeds := by
  cases rows <;> exact trivial

end DispatchPhase

namespace Delivery

variable {setup : DeliverySetup} {state : Delivery} {dispatcher : Nat} {event : DeliveryEvent}
  {run : List DeliveryEvent} {now : Instant}

/-- The moments that the events of a run tell. -/
def moments (run : List DeliveryEvent) : List Instant := run.filterMap (·.moment?)

/-- Time does not go back in the run. -/
def Steady (run : List DeliveryEvent) : Prop := (moments run).Pairwise (· ≤ ·)

/-- The rows are in the order in which they were made, each at one of the moments. -/
structure Chronological (state : Delivery) (moments : List Instant) : Prop where
  sorted : (state.store.outbox.map (·.createdAt)).Pairwise (· ≤ ·)
  known : ∀ row ∈ state.store.outbox, row.createdAt ∈ moments

/-- An event adds rows that are made at its moment. -/
theorem step_adds_now (setup : DeliverySetup) (unique : (state.store.outbox.map (·.id)).Nodup)
    (event : DeliveryEvent) : ∃ rows,
    (state.step setup event).store.outbox =
      state.store.outbox.map (state.change setup event) ++ rows ∧
    (∀ row ∈ rows, row.asMade = row) ∧ ∀ row ∈ rows, event.moment? = some row.createdAt := by
  obtain changed | ⟨kept, requests, does, reached⟩ := step_store setup unique event
  · refine ⟨[], ?_, List.forall_mem_nil _, List.forall_mem_nil _⟩
    rw [changed, List.append_nil]
    rfl
  · obtain ⟨rows, adds⟩ := Store.afterAll_addsRows requests state.store
    refine ⟨rows, ?_, adds.made, ?_⟩
    · rw [kept, List.map_id', reached, adds.outbox]
    · intro row member
      obtain ⟨call, terms, listed⟩ := Store.afterAll_createdAt requests adds.outbox row member
      exact (does _ listed).2

theorem createdAt_change (setup : DeliverySetup) (state : Delivery) (event : DeliveryEvent)
    (row : OutboxRow) : (state.change setup event row).createdAt = row.createdAt :=
  congrArg (·.createdAt) (state.change_relaying setup event row)

theorem moments_concat (run : List DeliveryEvent) (event : DeliveryEvent) :
    moments (run ++ [event]) = moments run ++ event.moment?.toList := by
  cases told : event.moment? <;> simp [moments, told]

theorem Steady.of_append {first second : List DeliveryEvent} (steady : Steady (first ++ second)) :
    Steady first := by
  unfold Steady moments at *
  rw [List.filterMap_append] at steady
  exact (List.pairwise_append.mp steady).1

theorem Steady.concat (steady : Steady (run ++ [event])) :
    Steady run ∧ ∀ now, event.moment? = some now → ∀ moment ∈ moments run, moment ≤ now := by
  refine ⟨steady.of_append, fun now told moment member => ?_⟩
  rw [Steady, moments_concat, List.pairwise_append] at steady
  exact steady.2.2 moment member now (by simp [told])

theorem Chronological.step {moments : List Instant} (chronological : state.Chronological moments)
    (unique : (state.store.outbox.map (·.id)).Nodup)
    (later : ∀ now, event.moment? = some now → ∀ moment ∈ moments, moment ≤ now) :
    (state.step setup event).Chronological (moments ++ event.moment?.toList) := by
  obtain ⟨rows, outbox, -, told⟩ := step_adds_now setup unique event
  constructor
  case sorted =>
    have same : state.store.outbox.map ((·.createdAt) ∘ state.change setup event) =
        state.store.outbox.map (·.createdAt) :=
      List.map_congr_left fun row _ => createdAt_change setup state event row
    rw [outbox, List.map_append, List.map_map, same, List.pairwise_append]
    refine ⟨chronological.sorted, ?_, ?_⟩
    · rw [List.pairwise_map]
      refine List.pairwise_of_forall_mem_list fun row member other listed => ?_
      rw [Option.some.inj ((told row member).symm.trans (told other listed))]
      exact Int.le_refl _
    · simp only [List.forall_mem_map]
      intro row member other listed
      exact later _ (told other listed) _ (chronological.known row member)
  case known =>
    rw [outbox]
    refine List.forall_mem_append.mpr ⟨?_, ?_⟩
    · simp only [List.forall_mem_map]
      intro row member
      rw [createdAt_change]
      exact List.mem_append_left _ (chronological.known row member)
    · intro row member
      exact List.mem_append_right _ (by simp [told row member])

theorem reached_chronological (setup : DeliverySetup) (steady : Steady run) :
    (reached setup run).Chronological (moments run) := by
  induction run using List.reverseRecOn with
  | nil => exact ⟨.nil, by simp [reached, afterAll, start]⟩
  | append_singleton run event ih =>
      obtain ⟨before, later⟩ := steady.concat
      rw [reached_concat, moments_concat]
      exact (ih before).step (reached_issued setup run).1 later

/-- What may happen next while one dispatcher is at work: its messages arrive, it does not stop, and
nobody else publishes. -/
def Calm (dispatcher : Nat) (state : Delivery) : DeliveryEvent → Prop
  | .reclaim acting _ | .claim acting | .report acting _ => acting = dispatcher
  | .publish acting handover =>
    acting = dispatcher ∧ ∀ row rest, state.phases acting = .publishing row rest →
      (handover.publish state.broker row).1 = .ok ()
  | .abandon _ | .arrive .. => False
  | .requeue .. | .settle .. | .seed .. | .poll .. | .refuse _ => True

/-- Each event of the run is calm where it takes place. -/
def Undisturbed (setup : DeliverySetup) (dispatcher : Nat) (state : Delivery) :
    List DeliveryEvent → Prop
  | [] => True
  | event :: rest =>
    state.Calm dispatcher event ∧ (state.step setup event).Undisturbed setup dispatcher rest

theorem undisturbed_append (first second : List DeliveryEvent) :
    state.Undisturbed setup dispatcher (first ++ second) ↔
      state.Undisturbed setup dispatcher first ∧
        (state.afterAll setup first).Undisturbed setup dispatcher second := by
  induction first generalizing state with
  | nil => simp [Undisturbed, afterAll]
  | cons event rest ih =>
      simp only [List.cons_append, Undisturbed, ih, and_assoc]
      rfl

/-- The outbox has first the rows that are done with, then those that the dispatcher holds, then
those that wait as they were made.  The broker has the messages of the first ones, in their order,
and of the row that is to be reported. -/
structure Queue (state : Delivery) (dispatcher : Nat) (done waiting : List OutboxRow) : Prop where
  outbox : state.store.outbox = done ++ ((state.phases dispatcher).held ++ waiting)
  published : ∀ row ∈ done, row.status = .published
  leased : ∀ row ∈ (state.phases dispatcher).held, row.status = .processing
  fresh : ∀ row ∈ waiting, row.asMade = row
  heard : (state.phases dispatcher).Succeeds
  messages : List.Forall₂ Message.IsOf state.broker.messages
    (done ++ (state.phases dispatcher).taken)

variable {done waiting rest : List OutboxRow} {row : OutboxRow} {phase : DispatchPhase}

theorem queue_of_phase {after : Delivery} (at_phase : after.phases dispatcher = phase)
    (outbox : after.store.outbox = done ++ (phase.held ++ waiting))
    (published : ∀ row ∈ done, row.status = .published)
    (leased : ∀ row ∈ phase.held, row.status = .processing)
    (fresh : ∀ row ∈ waiting, row.asMade = row) (heard : phase.Succeeds)
    (messages : List.Forall₂ Message.IsOf after.broker.messages (done ++ phase.taken)) :
    after.Queue dispatcher done waiting := by
  subst at_phase
  exact ⟨outbox, published, leased, fresh, heard, messages⟩

theorem Queue.status (queue : state.Queue dispatcher done waiting) :
    ∀ row ∈ state.store.outbox, row.status = .published ∨ row.status = .new ∨
      row ∈ (state.phases dispatcher).held := by
  intro row member
  rw [queue.outbox, List.mem_append, List.mem_append] at member
  obtain early | held | late := member
  · exact .inl (queue.published row early)
  · exact .inr (.inr held)
  · exact .inr (.inl (queue.fresh row late ▸ rfl))

/-- Rows may be added behind the queue. -/
theorem Queue.behind {after : Delivery} {rows : List OutboxRow}
    (queue : state.Queue dispatcher done waiting)
    (outbox : after.store.outbox = state.store.outbox ++ rows)
    (made : ∀ row ∈ rows, row.asMade = row)
    (phases : after.phases = state.phases)
    (messages : after.broker.messages = state.broker.messages) :
    after.Queue dispatcher done (waiting ++ rows) := by
  refine queue_of_phase (congrFun phases dispatcher) ?_ queue.published queue.leased
    (List.forall_mem_append.mpr ⟨queue.fresh, made⟩) queue.heard (messages ▸ queue.messages)
  rw [outbox, queue.outbox, List.append_assoc, List.append_assoc]

/-- A change that leaves the rows of the queue alone leaves them all alone. -/
theorem Queue.unchanged {change : OutboxRow → OutboxRow}
    (queue : state.Queue dispatcher done waiting)
    (same : ∀ row ∈ state.store.outbox, row.status = .published ∨ row.status = .new ∨
      row ∈ (state.phases dispatcher).held → change row = row) :
    state.store.withRows change = state.store := by
  refine (congrArg (fun outbox => { state.store with outbox }) ?_).trans rfl
  refine (List.map_congr_left fun row member => ?_).trans (List.map_id' _)
  exact same row member (queue.status row member)

/-- Nothing is leased while nothing is held. -/
theorem Queue.reclaims_none (queue : state.Queue dispatcher done waiting)
    (free : (state.phases dispatcher).held = []) (lease : Duration) (now : Instant) :
    state.store.perform (Store.reclaimStale lease now) = (.ok 0, state.store) := by
  have unleased : ∀ row ∈ state.store.outbox,
      ¬ Store.leasedBefore (now.before lease) row = true := by
    intro row member stale
    have standing := queue.status row member
    rw [leasedBefore_processing stale, free] at standing
    simp at standing
  have none : state.store.outbox.filter (Store.leasedBefore (now.before lease)) = [] :=
    List.filter_eq_nil_iff.mpr unleased
  have kept : state.store.withRows (reclaimIf (now.before lease) now) = state.store :=
    queue.unchanged fun row member _ => if_neg (unleased row member)
  refine Prod.ext ?_ ((Store.perform_reclaimStale state.store lease now).trans kept)
  exact congrArg (fun rows : List OutboxRow => Except.ok rows.length) none

theorem Queue.reclaim (queue : state.Queue dispatcher done waiting) (now : Instant) :
    (state.step setup (.reclaim dispatcher now)).Queue dispatcher done waiting := by
  cases phase : state.phases dispatcher with
  | idle =>
      have none := queue.reclaims_none (by rw [phase]; rfl) setup.dispatcher.lease now
      have rows := queue.outbox
      have messages := queue.messages
      rw [phase] at rows messages
      simp only [step, phase, none]
      exact queue_of_phase (withPhase_self _) rows queue.published (List.forall_mem_nil _)
        queue.fresh trivial messages
  | _ => simpa only [step, phase] using queue

/-- While nothing is held, the first of the waiting rows that are due are claimed. -/
theorem Queue.claims {due late : List OutboxRow}
    (queue : state.Queue dispatcher done (due ++ late))
    (free : (state.phases dispatcher).held = []) (limit : Nat)
    (isDue : ∀ row ∈ due, row.createdAt ≤ now) (isLate : ∀ row ∈ late, ¬ row.createdAt ≤ now) :
    state.store.perform (Store.claimBatch limit now) =
      (.ok ((due.take limit).map (·.markProcessing now)),
        { state.store with
          outbox := done ++ ((due.take limit).map (·.markProcessing now) ++
            (due.drop limit ++ late)) }) := by
  obtain ⟨freshDue, freshLate⟩ := List.forall_mem_append.mp queue.fresh
  have refused : ∀ row ∈ done, Store.claimable now row = false := by
    intro row member
    simp [Store.claimable, queue.published row member, OutboxStatus.isClaimable]
  have allowed : ∀ row ∈ due, Store.claimable now row = true := by
    intro row member
    rw [asMade_claimable (freshDue row member)]
    exact decide_eq_true (isDue row member)
  have early : ∀ row ∈ late, Store.claimable now row = false := by
    intro row member
    rw [asMade_claimable (freshLate row member)]
    exact decide_eq_false (isLate row member)
  have rows := queue.outbox
  rw [free, List.nil_append] at rows
  have claimed := Store.claimRows_append limit refused (due ++ late)
  rw [Store.claimRows_due limit allowed early] at claimed
  rw [Store.perform_claimBatch_eq, rows, claimed]

theorem Queue.claim {due late : List OutboxRow}
    (queue : state.Queue dispatcher done (due ++ late))
    (phase : state.phases dispatcher = .reclaimed now)
    (isDue : ∀ row ∈ due, row.createdAt ≤ now) (isLate : ∀ row ∈ late, ¬ row.createdAt ≤ now) :
    (state.step setup (.claim dispatcher)).phases dispatcher =
        .ofRows ((due.take setup.dispatcher.batch).map (·.markProcessing now)) ∧
      (state.step setup (.claim dispatcher)).Queue dispatcher done
        (due.drop setup.dispatcher.batch ++ late) := by
  have claims := queue.claims (by rw [phase]; rfl) setup.dispatcher.batch isDue isLate
  obtain ⟨freshDue, freshLate⟩ := List.forall_mem_append.mp queue.fresh
  have messages := queue.messages
  rw [phase] at messages
  simp only [step, phase, claims]
  refine ⟨withPhase_self _, queue_of_phase (withPhase_self _) ?_ queue.published ?_ ?_
    (DispatchPhase.succeeds_ofRows _) ?_⟩
  · rw [DispatchPhase.held_ofRows]
    rfl
  · rw [DispatchPhase.held_ofRows]
    intro row member
    obtain ⟨earlier, -, rfl⟩ := List.mem_map.mp member
    rfl
  · refine List.forall_mem_append.mpr ⟨fun row member => ?_, freshLate⟩
    exact freshDue row (List.mem_of_mem_drop member)
  · rw [DispatchPhase.taken_ofRows]
    exact messages

theorem Queue.publish {handover : Handover} (queue : state.Queue dispatcher done waiting)
    (arrives : ∀ row rest, state.phases dispatcher = .publishing row rest →
      (handover.publish state.broker row).1 = .ok ()) :
    (state.step setup (.publish dispatcher handover)).Queue dispatcher done waiting := by
  cases phase : state.phases dispatcher with
  | publishing row rest =>
      obtain ⟨outbox, published, leased, fresh, -, messages⟩ := queue
      rw [phase] at outbox leased messages
      have done := arrives row rest phase
      obtain ⟨refused, -⟩ | ⟨message, is, more⟩ := handover.publish_cases state.broker row
      · exact absurd done refused
      · simp only [step, phase]
        refine queue_of_phase (withPhase_self _) outbox published leased fresh done ?_
        change List.Forall₂ Message.IsOf (handover.publish state.broker row).2.messages _
        rw [more]
        exact List.rel_append (by simpa [DispatchPhase.taken] using messages) (.cons is .nil)
  | _ => simpa only [step, phase] using queue

/-- A row that is reported is done with. -/
theorem Queue.report (queue : state.Queue dispatcher done waiting)
    (unique : (state.store.outbox.map (·.id)).Nodup) (setup : DeliverySetup) (now : Instant) :
    ∃ more, (state.step setup (.report dispatcher now)).Queue dispatcher (done ++ more) waiting ∧
      (done ++ more).length +
          ((state.step setup (.report dispatcher now)).phases dispatcher).held.length =
        done.length + (state.phases dispatcher).held.length := by
  cases phase : state.phases dispatcher with
  | reporting row result rest =>
      obtain ⟨outbox, published, leased, fresh, heard, messages⟩ := queue
      rw [phase] at outbox leased heard messages
      obtain rfl : result = .ok () := heard
      have rows : state.store.outbox = done ++ row :: (rest ++ waiting) := outbox
      have member : row ∈ state.store.outbox := by simp [rows]
      have present := Store.outboxRow?_of_mem unique member
      rw [step_report unique phase present]
      refine ⟨[row.markPublished now], queue_of_phase (withPhase_self _) ?_ ?_ ?_ fresh
        (DispatchPhase.succeeds_ofRows _) ?_, ?_⟩
      · change state.store.outbox.map (settleIf setup.dispatcher row (.ok ()) now) = _
        rw [rows] at unique ⊢
        rw [map_settleIf unique, DispatchPhase.held_ofRows, List.append_assoc]
        rfl
      · exact List.forall_mem_append.mpr ⟨published, List.forall_mem_singleton.mpr rfl⟩
      · rw [DispatchPhase.held_ofRows]
        exact (List.forall_mem_cons.mp leased).2
      · rw [DispatchPhase.taken_ofRows, List.append_nil]
        refine Message.forall₂_congr ?_ messages
        simp only [List.map_append]
        rfl
      · rw [withPhase_self, DispatchPhase.held_ofRows]
        simp only [DispatchPhase.held, List.length_append, List.length_cons, List.length_nil]
        omega
  | _ =>
      refine ⟨[], ?_, ?_⟩
      · simpa only [step, phase, List.append_nil] using queue
      · simp only [step, phase, List.append_nil]

theorem poll_messages (setup : DeliverySetup) (state : Delivery) (talk : ExchangeTalk)
    (stopAt : Option Duration) (now : Instant) :
    (state.step setup (.poll talk stopAt now)).broker.messages = state.broker.messages := by
  refine Setup.submitBatch_induction (fun _ broker => broker.messages = state.broker.messages) ?_
    (fun _ _ _ same => same) ?_
  · simp only [Broker.receive]
    split
    · exact Broker.take_messages ..
    · exact (Broker.take_messages ..).trans (Broker.take_messages ..)
  · intro _ broker delivered _ _ same
    exact (Broker.acknowledge_messages ..).trans same

/-- What is made in the order of time is due up to some row, and not from there on. -/
theorem exists_due (now : Instant) (sorted : (waiting.map (·.createdAt)).Pairwise (· ≤ ·)) :
    ∃ due late, waiting = due ++ late ∧ (∀ row ∈ due, row.createdAt ≤ now) ∧
      ∀ row ∈ late, ¬ row.createdAt ≤ now := by
  induction waiting with
  | nil => exact ⟨[], [], rfl, List.forall_mem_nil _, List.forall_mem_nil _⟩
  | cons row rest ih =>
      rw [List.map_cons, List.pairwise_cons] at sorted
      obtain ⟨first, sorted⟩ := sorted
      by_cases isDue : row.createdAt ≤ now
      · obtain ⟨due, late, rfl, allDue, allLate⟩ := ih sorted
        exact ⟨row :: due, late, rfl, List.forall_mem_cons.mpr ⟨isDue, allDue⟩, allLate⟩
      · refine ⟨[], row :: rest, rfl, List.forall_mem_nil _, ?_⟩
        refine List.forall_mem_cons.mpr ⟨isDue, fun other member soon => isDue ?_⟩
        exact Int.le_trans (first _ (List.mem_map_of_mem member)) soon

theorem Queue.sorted {moments : List Instant} (queue : state.Queue dispatcher done waiting)
    (chronological : state.Chronological moments) :
    (waiting.map (·.createdAt)).Pairwise (· ≤ ·) := by
  have sorted := chronological.sorted
  rw [queue.outbox, List.map_append, List.map_append] at sorted
  exact (List.pairwise_append.mp (List.pairwise_append.mp sorted).2.1).2.1

/-- Only claiming makes the rows more that are done with or held. -/
theorem Queue.step {moments : List Instant} (queue : state.Queue dispatcher done waiting)
    (unique : (state.store.outbox.map (·.id)).Nodup)
    (chronological : state.Chronological moments) (calm : state.Calm dispatcher event) :
    ∃ more rest, (state.step setup event).Queue dispatcher more rest ∧
      (event ≠ .claim dispatcher →
        more.length + ((state.step setup event).phases dispatcher).held.length =
          done.length + (state.phases dispatcher).held.length) := by
  have addsRows := step_adds_now setup unique event
  cases event with
  | reclaim acting now =>
      obtain rfl : acting = dispatcher := calm
      refine ⟨done, waiting, queue.reclaim now, fun _ => ?_⟩
      cases phase : state.phases acting with
      | idle => simp only [Delivery.step, phase, withPhase_self, DispatchPhase.held]
      | _ => simp only [Delivery.step, phase]
  | claim acting =>
      obtain rfl : acting = dispatcher := calm
      cases phase : state.phases acting with
      | reclaimed now =>
          obtain ⟨due, late, rfl, allDue, allLate⟩ := exists_due now (queue.sorted chronological)
          exact ⟨_, _, (queue.claim phase allDue allLate).2, fun other => absurd rfl other⟩
      | _ =>
          refine ⟨done, waiting, ?_, fun other => absurd rfl other⟩
          simpa only [Delivery.step, phase] using queue
  | publish acting handover =>
      obtain ⟨rfl, arrives⟩ := calm
      refine ⟨done, waiting, queue.publish arrives, fun _ => ?_⟩
      cases phase : state.phases acting with
      | publishing row rest => simp only [Delivery.step, phase, withPhase_self, DispatchPhase.held]
      | _ => simp only [Delivery.step, phase]
  | report acting now =>
      obtain rfl : acting = dispatcher := calm
      obtain ⟨more, reported, total⟩ := queue.report unique setup now
      exact ⟨_, _, reported, fun _ => total⟩
  | requeue ids now =>
      have kept : state.store.withRows (requeueIf ids now) = state.store := by
        refine queue.unchanged fun row _ standing => if_neg fun asked => ?_
        obtain published | new | held := standing
        · exact absurd (published.symm.trans asked.1) (by decide)
        · exact absurd (new.symm.trans asked.1) (by decide)
        · exact absurd ((queue.leased row held).symm.trans asked.1) (by decide)
      refine ⟨done, waiting, ?_, fun _ => rfl⟩
      simp only [Delivery.step, Store.perform_requeueDead, kept]
      exact queue
  | settle | seed =>
      obtain ⟨rows, outbox, made, -⟩ := addsRows
      have behind := outbox.trans (congrArg (· ++ rows) (List.map_id' state.store.outbox))
      exact ⟨_, _, queue.behind behind made rfl rfl, fun _ => rfl⟩
  | poll talk stopAt now =>
      obtain ⟨rows, outbox, made, -⟩ := addsRows
      have behind := outbox.trans (congrArg (· ++ rows) (List.map_id' state.store.outbox))
      have messages := poll_messages setup state talk stopAt now
      exact ⟨_, _, queue.behind behind made rfl messages, fun _ => rfl⟩
  | refuse failing =>
      refine ⟨_, _, queue.behind ?_ (List.forall_mem_nil _) rfl rfl, fun _ => rfl⟩
      exact (List.append_nil _).symm
  | abandon | arrive => exact calm.elim

theorem reached_queue (undisturbed : start.Undisturbed setup dispatcher run)
    (steady : Steady run) : ∃ done waiting, (reached setup run).Queue dispatcher done waiting := by
  induction run using List.reverseRecOn with
  | nil =>
      exact ⟨[], [], rfl, List.forall_mem_nil _, List.forall_mem_nil _, List.forall_mem_nil _,
        trivial, .nil⟩
  | append_singleton run event ih =>
      obtain ⟨before, calm, -⟩ := (undisturbed_append run [event]).mp undisturbed
      obtain ⟨done, waiting, queue⟩ := ih before steady.concat.1
      have chronological := reached_chronological setup steady.concat.1
      obtain ⟨more, rest, after, -⟩ := queue.step (reached_issued setup run).1 chronological calm
      rw [reached_concat]
      exact ⟨more, rest, after⟩

end Delivery

end SpotSettlement
