import SpotSettlement.Proofs.Delivery.Events
import SpotSettlement.Proofs.Engine.Submission
import SpotSettlement.Proofs.Settlement.Outbox
import SpotSettlement.Proofs.Store.Outbox

namespace SpotSettlement

/-! # What an event makes of the rows of the outbox

An event changes every row by itself, or adds rows, and rows never change their identifiers.  So
each row can be followed through a run.
-/

open OutboxRow

theorem DispatchPhase.held_ofRows (rows : List OutboxRow) : (ofRows rows).held = rows := by
  cases rows <;> rfl

namespace Delivery

variable {setup : DeliverySetup} {state : Delivery} {dispatcher : Nat} {now : Instant}
  {copy row : OutboxRow} {rest : List OutboxRow} {result : Except BrokerError Unit}
  {event : DeliveryEvent} {id : String}

theorem withPhase_self (phase : DispatchPhase) :
    (state.withPhase dispatcher phase).phases dispatcher = phase := if_pos rfl

theorem withPhase_other {other : Nat} {phase : DispatchPhase} (different : other ≠ dispatcher) :
    (state.withPhase dispatcher phase).phases other = state.phases other := if_neg different

/-- A dispatcher claims rows that may be claimed, and holds copies of them as it leaves them. -/
theorem step_claim (setup : DeliverySetup) (unique : (state.store.outbox.map (·.id)).Nodup)
    (phase : state.phases dispatcher = .reclaimed now) :
    ∃ taken : List OutboxRow, taken.Sublist state.store.outbox ∧
      (∀ row ∈ taken, Store.claimable now row = true) ∧
      taken.length ≤ setup.dispatcher.batch ∧
      state.step setup (.claim dispatcher) =
        (state.withStore (state.store.withRows (leaseIf (taken.map (·.id)) now))).withPhase
          dispatcher (.ofRows (taken.map (·.markProcessing now))) := by
  obtain ⟨taken, sublist, claimables, bound, claimed⟩ :=
    Store.perform_claimBatch unique setup.dispatcher.batch now
  exact ⟨taken, sublist, claimables, bound, by simp only [step, phase, claimed]⟩

theorem step_report (unique : (state.store.outbox.map (·.id)).Nodup)
    (phase : state.phases dispatcher = .reporting copy result rest)
    (present : state.store.outboxRow? copy.id = some row) :
    state.step setup (.report dispatcher now) =
      (state.withStore (state.store.withRows (settleIf setup.dispatcher copy result now))).withPhase
        dispatcher (.ofRows rest) := by
  obtain ⟨done, settled⟩ :=
    Store.perform_settle setup.dispatcher {} result now unique present
  simp only [step, phase, settled]

theorem step_report_absent (phase : state.phases dispatcher = .reporting copy result rest)
    (absent : state.store.outboxRow? copy.id = none) :
    state.step setup (.report dispatcher now) = state.withPhase dispatcher .idle := by
  obtain ⟨failure, refused⟩ :=
    Store.perform_settle_absent setup.dispatcher {} result now absent
  simp only [step, phase, refused]
  rfl

/-- A report settles the row that it is about, if there is one. -/
theorem step_report_store (unique : (state.store.outbox.map (·.id)).Nodup)
    (phase : state.phases dispatcher = .reporting copy result rest) :
    (state.step setup (.report dispatcher now)).store =
      state.store.withRows (settleIf setup.dispatcher copy result now) := by
  cases found : state.store.outboxRow? copy.id with
  | some row =>
      rw [step_report unique phase found]
      rfl
  | none =>
      have others : ∀ row ∈ state.store.outbox,
          settleIf setup.dispatcher copy result now row = row := by
        intro row member
        have different := List.find?_eq_none.mp found row member
        exact if_neg (by simpa using different)
      have rows := (List.map_congr_left others).trans (List.map_id' _)
      rw [step_report_absent phase found]
      exact (congrArg (fun outbox => { state.store with outbox }) rows).symm

/-- A pass of the worker changes the store by calls of settlement alone. -/
theorem step_poll (setup : DeliverySetup) (state : Delivery) (talk : ExchangeTalk)
    (stopAt : Option Duration) (now : Instant) :
    ∃ calls, (state.step setup (.poll talk stopAt now)).store =
      state.store.afterCalls setup.engine.terms now calls := by
  refine Setup.submitBatch_induction
    (fun store _ => ∃ calls, store = state.store.afterCalls setup.engine.terms now calls)
    ⟨[], rfl⟩ ?_ ?_
  · rintro _ - call ⟨calls, rfl⟩
    refine ⟨calls ++ [call], ?_⟩
    simp only [Store.afterCalls, List.map_append, Store.afterAll_append]
    rfl
  · rintro store - - - - reached
    exact reached

/-- What an event makes of each row that there is. -/
def change (setup : DeliverySetup) (state : Delivery) (event : DeliveryEvent) :
    OutboxRow → OutboxRow :=
  match event with
  | .reclaim dispatcher now =>
    match state.phases dispatcher with
    | .idle => reclaimIf (now.before setup.dispatcher.lease) now
    | _ => fun row => row
  | .claim dispatcher =>
    match state.phases dispatcher with
    | .reclaimed now =>
      leaseIf (((state.step setup (.claim dispatcher)).phases dispatcher).held.map (·.id)) now
    | _ => fun row => row
  | .report dispatcher now =>
    match state.phases dispatcher with
    | .reporting copy result _ => settleIf setup.dispatcher copy result now
    | _ => fun row => row
  | .requeue ids now => requeueIf ids now
  | _ => fun row => row

theorem change_relaying (setup : DeliverySetup) (state : Delivery) (event : DeliveryEvent) :
    Relaying (state.change setup event) := by
  unfold change
  split
  · split
    · exact reclaimIf_relaying _ _
    · exact fun _ => rfl
  · split
    · exact leaseIf_relaying _ _
    · exact fun _ => rfl
  · split
    · exact settleIf_relaying _ _ _ _
    · exact fun _ => rfl
  · exact requeueIf_relaying _ _
  · exact fun _ => rfl

theorem change_claim {taken : List OutboxRow} {ids : List String}
    (phase : state.phases dispatcher = .reclaimed now)
    (claimed : state.step setup (.claim dispatcher) =
      (state.withStore (state.store.withRows (leaseIf ids now))).withPhase dispatcher
        (.ofRows (taken.map (·.markProcessing now)))) :
    state.change setup (.claim dispatcher) = leaseIf (taken.map (·.id)) now := by
  simp only [change, phase, claimed, withPhase_self, DispatchPhase.held_ofRows, List.map_map]
  rfl

/-- A request that an event does: it seeds, or calls settlement at the moment of the event. -/
def Does (setup : DeliverySetup) (event : DeliveryEvent) : Request → Prop
  | .seed .. => True
  | .settle _ terms now => terms = setup.engine.terms ∧ event.moment? = some now

/-- An event changes the rows of the outbox, or does requests. -/
theorem step_store (setup : DeliverySetup) (unique : (state.store.outbox.map (·.id)).Nodup)
    (event : DeliveryEvent) :
    (state.step setup event).store = state.store.withRows (state.change setup event) ∨
      state.change setup event = (fun row => row) ∧ ∃ run : List Request,
        (∀ request ∈ run, Does setup event request) ∧
          (state.step setup event).store = state.store.afterAll run := by
  have same := state.store.withRows_self
  cases event with
  | reclaim dispatcher now =>
      refine .inl ?_
      cases phase : state.phases dispatcher with
      | idle =>
          simp only [step, change, phase]
          exact Store.perform_reclaimStale state.store setup.dispatcher.lease now
      | _ => simp only [step, change, phase, same]
  | claim dispatcher =>
      refine .inl ?_
      cases phase : state.phases dispatcher with
      | reclaimed now =>
          obtain ⟨taken, -, -, -, claimed⟩ := step_claim setup unique phase
          rw [change_claim phase claimed, claimed]
          rfl
      | _ => simp only [step, change, phase, same]
  | publish dispatcher handover =>
      refine .inl ?_
      cases phase : state.phases dispatcher with
      | publishing row rest =>
          simp only [step, change, phase, same]
          rfl
      | _ => simp only [step, change, phase, same]
  | report dispatcher now =>
      refine .inl ?_
      cases phase : state.phases dispatcher with
      | reporting copy result rest =>
          simp only [change, phase]
          exact step_report_store unique phase
      | _ => simp only [step, change, phase, same]
  | requeue ids now => exact .inl (Store.perform_requeueDead _ _ _)
  | settle call now =>
      refine .inr ⟨rfl, [.settle call setup.engine.terms now], ?_, rfl⟩
      simp [Does, DeliveryEvent.moment?]
  | seed account asset amount now =>
      exact .inr ⟨rfl, [.seed account asset amount now], by simp [Does], rfl⟩
  | poll talk stopAt now =>
      obtain ⟨calls, reached⟩ := state.step_poll setup talk stopAt now
      refine .inr ⟨rfl, _, ?_, reached⟩
      intro request member
      obtain ⟨call, -, rfl⟩ := List.mem_map.mp member
      exact ⟨rfl, rfl⟩
  | abandon | arrive | refuse => exact .inl same.symm

/-- An event changes the rows that there are, and adds rows after them. -/
theorem step_adds (setup : DeliverySetup) (unique : (state.store.outbox.map (·.id)).Nodup)
    (event : DeliveryEvent) : ∃ rows, (state.store.withRows (state.change setup event)).AddsRows
      (state.step setup event).store rows := by
  obtain changed | ⟨kept, run, -, reached⟩ := step_store setup unique event
  · rw [changed]
    exact ⟨[], .none rfl (Nat.le_refl _)⟩
  · rw [kept, Store.withRows_self, reached]
    exact Store.afterAll_addsRows run state.store

theorem step_issued (setup : DeliverySetup)
    (issued : state.store.Issued (state.store.outbox.map (·.id)))
    (event : DeliveryEvent) :
    (state.step setup event).store.Issued ((state.step setup event).store.outbox.map (·.id)) := by
  obtain ⟨rows, adds⟩ := step_adds setup issued.1 event
  apply adds.issued
  rw [Store.ids_withRows (state.change_relaying setup event)]
  exact issued

/-- The rows have identifiers that were handed out, and none of them twice. -/
theorem reached_issued (setup : DeliverySetup) (run : List DeliveryEvent) :
    (reached setup run).store.Issued ((reached setup run).store.outbox.map (·.id)) := by
  refine reached_induction (fun state => state.store.Issued (state.store.outbox.map (·.id)))
    ⟨.nil, by simp [start]⟩ ?_
  intro earlier event _ issued
  exact step_issued setup issued event

/-- A row is found again after an event, as the event has made it. -/
theorem step_row (setup : DeliverySetup) (unique : (state.store.outbox.map (·.id)).Nodup)
    (event : DeliveryEvent)
    (lookup : state.store.outboxRow? id = some row) :
    (state.step setup event).store.outboxRow? id = some (state.change setup event row) := by
  obtain ⟨rows, adds⟩ := step_adds setup unique event
  have kept : (state.store.withRows (state.change setup event)).outboxRow? id =
      some (state.change setup event row) := by
    rw [Store.outboxRow?_withRows (state.change_relaying setup event), lookup]
    rfl
  rw [Store.outboxRow?, adds.outbox, List.find?_append]
  exact (congrArg (Option.or · _) kept).trans Option.some_or

/-- Rows that a dispatcher claims might be claimed before. -/
theorem claimed_rows (unique : (state.store.outbox.map (·.id)).Nodup)
    (phase : state.phases dispatcher = .reclaimed now) :
    ∀ copy ∈ ((state.step setup (.claim dispatcher)).phases dispatcher).held,
      ∃ row, state.store.outboxRow? copy.id = some row ∧ Store.claimable now row = true ∧
        copy = row.markProcessing now := by
  obtain ⟨taken, sublist, claimables, -, claimed⟩ := step_claim setup unique phase
  intro copy held
  rw [claimed, withPhase_self, DispatchPhase.held_ofRows] at held
  obtain ⟨row, member, rfl⟩ := List.mem_map.mp held
  exact ⟨row, Store.outboxRow?_of_mem unique (sublist.subset member), claimables row member, rfl⟩

/-- What changes a row by an event. -/
theorem change_cases (setup : DeliverySetup) (event : DeliveryEvent)
    (unique : (state.store.outbox.map (·.id)).Nodup)
    (lookup : state.store.outboxRow? id = some row) :
    state.change setup event row = row ∨
    (∃ dispatcher now, event = .reclaim dispatcher now ∧
      Store.leasedBefore (now.before setup.dispatcher.lease) row = true ∧
      state.change setup event row = row.reclaim now) ∨
    (∃ dispatcher now, event = .claim dispatcher ∧ Store.claimable now row = true ∧
      state.change setup event row = row.markProcessing now) ∨
    (∃ dispatcher now copy result rest, event = .report dispatcher now ∧
      state.phases dispatcher = .reporting copy result rest ∧ copy.id = id ∧
      state.change setup event row = row.settled setup.dispatcher copy result now) ∨
    ∃ ids now, event = .requeue ids now ∧ row.RequeuedBy ids ∧
      state.change setup event row = row.requeue now := by
  obtain ⟨-, named⟩ := Store.outboxRow?_some lookup
  cases event with
  | reclaim dispatcher now =>
      cases phase : state.phases dispatcher with
      | idle =>
          simp only [change, phase, reclaimIf]
          split
          · next leased => exact .inr (.inl ⟨_, _, rfl, leased, rfl⟩)
          · exact .inl rfl
      | _ => simp only [change, phase, true_or]
  | claim dispatcher =>
      cases phase : state.phases dispatcher with
      | reclaimed now =>
          simp only [change, phase, leaseIf]
          split
          · next claimed =>
              obtain ⟨copy, held, same⟩ := List.mem_map.mp claimed
              obtain ⟨found, again, claimable, -⟩ := claimed_rows unique phase copy held
              rw [same, named, lookup] at again
              obtain rfl := Option.some.inj again
              exact .inr (.inr (.inl ⟨_, _, rfl, claimable, rfl⟩))
          · exact .inl rfl
      | _ => simp only [change, phase, true_or]
  | report dispatcher now =>
      cases phase : state.phases dispatcher with
      | reporting copy result rest =>
          simp only [change, phase, settleIf]
          split
          · next same =>
              exact .inr (.inr (.inr (.inl ⟨_, _, _, _, _, rfl, phase, same ▸ named, rfl⟩)))
          · exact .inl rfl
      | _ => simp only [change, phase, true_or]
  | requeue ids now =>
      simp only [change, requeueIf]
      split
      · next asked => exact .inr (.inr (.inr (.inr ⟨_, _, rfl, asked, rfl⟩)))
      · exact .inl rfl
  | _ => exact .inl rfl

end Delivery

end SpotSettlement
