import SpotSettlement.Proofs.Delivery.Rows

namespace SpotSettlement

/-! # Whether delivery is final

A row that was delivered is not claimed again, and of all events only one moves it to another
status: a report of a failure, by a dispatcher that holds a copy of it from before.  The same report
may take back failures that were counted since.  As long as no lease runs out under a dispatcher
that still holds the row, there are no such copies, and delivery is final.
-/

open OutboxRow

namespace Delivery

variable {setup : DeliverySetup} {state : Delivery} {event : DeliveryEvent} {row : OutboxRow}
  {dispatcher : Nat} {now : Instant} {id : String}

/-- The copy of a row that could not be published, as an event reports. -/
def failed? (state : Delivery) : DeliveryEvent → Option OutboxRow
  | .report dispatcher _ =>
    match state.phases dispatcher with
    | .reporting copy (.error _) _ => some copy
    | _ => none
  | _ => none

/-- The event queues the row again after it was set aside. -/
def Requeues (event : DeliveryEvent) (row : OutboxRow) : Prop :=
  match event with
  | .requeue ids _ => row.RequeuedBy ids
  | _ => False

theorem failed?_some {copy : OutboxRow} (failed : state.failed? event = some copy) :
    ∃ dispatcher now error rest, event = .report dispatcher now ∧
      state.phases dispatcher = .reporting copy (.error error) rest := by
  unfold failed? at failed
  split at failed
  · split at failed
    · next phase =>
        obtain rfl := Option.some.inj failed
        exact ⟨_, _, _, _, rfl, phase⟩
    · contradiction
  · contradiction

/-- A failure that is reported counts from the copy. -/
theorem change_failed {copy : OutboxRow} (failed : state.failed? event = some copy)
    (same : copy.id = row.id) :
    (state.change setup event row).status ≠ .published ∧
      (state.change setup event row).attempts = min (copy.attempts + 1) attemptLimit := by
  obtain ⟨dispatcher, now, error, rest, rfl, phase⟩ := failed?_some failed
  simp only [change, phase, settleIf, if_pos same.symm]
  exact settled_error error

/-- A row that was delivered moves to another status exactly by a report that it failed. -/
theorem change_published (unique : (state.store.outbox.map (·.id)).Nodup)
    (lookup : state.store.outboxRow? id = some row) (published : row.status = .published) :
    (state.change setup event row).status ≠ .published ↔
      ∃ copy, state.failed? event = some copy ∧ copy.id = id := by
  obtain ⟨-, named⟩ := Store.outboxRow?_some lookup
  constructor
  · intro moved
    obtain same | ⟨_, _, -, leased, -⟩ | ⟨_, _, -, claimable, -⟩ |
      ⟨_, _, copy, result, _, rfl, phase, about, settled⟩ | ⟨_, _, -, asked, -⟩ :=
      change_cases setup event unique lookup
    · rw [same] at moved
      contradiction
    · rw [leasedBefore_processing leased] at published
      contradiction
    · have status := claimable_status claimable
      simp [published] at status
    · cases result with
      | ok =>
          rw [settled] at moved
          exact absurd rfl moved
      | error error => exact ⟨copy, by simp only [failed?, phase], about⟩
    · rw [asked.1] at published
      contradiction
  · rintro ⟨copy, failed, about⟩
    exact (change_failed failed (about.trans named.symm)).1

/-- The failures that were counted become fewer exactly if the row is queued again after it was set
aside, or if a copy is reported to have failed that counts fewer. -/
theorem change_attempts_lt (unique : (state.store.outbox.map (·.id)).Nodup)
    (lookup : state.store.outboxRow? id = some row) :
    (state.change setup event row).attempts < row.attempts ↔
      (Requeues event row ∧ 0 < row.attempts) ∨
        ∃ copy, state.failed? event = some copy ∧ copy.id = id ∧
          min (copy.attempts + 1) attemptLimit < row.attempts := by
  obtain ⟨-, named⟩ := Store.outboxRow?_some lookup
  constructor
  · intro fewer
    obtain same | ⟨_, _, -, -, same⟩ | ⟨_, _, -, -, same⟩ |
      ⟨_, _, copy, result, _, rfl, phase, about, settled⟩ | ⟨_, _, rfl, asked, same⟩ :=
      change_cases setup event unique lookup
    · rw [same] at fewer
      exact absurd fewer (Nat.lt_irrefl _)
    · rw [same] at fewer
      exact absurd fewer (Nat.lt_irrefl _)
    · rw [same] at fewer
      exact absurd fewer (Nat.lt_irrefl _)
    · cases result with
      | ok =>
          rw [settled] at fewer
          exact absurd fewer (Nat.lt_irrefl _)
      | error error =>
          rw [settled, (settled_error error).2] at fewer
          exact .inr ⟨copy, by simp only [failed?, phase], about, fewer⟩
    · exact .inl ⟨asked, Nat.zero_lt_of_lt fewer⟩
  · rintro (⟨requeues, counted⟩ | ⟨copy, failed, about, fewer⟩)
    · unfold Requeues at requeues
      split at requeues
      · simp only [change, requeueIf, if_pos requeues]
        exact counted
      · exact requeues.elim
    · rw [(change_failed failed (about.trans named.symm)).2]
      exact fewer

/-- The event takes the lease of a row from a dispatcher that still holds the row. -/
def Overtakes (setup : DeliverySetup) (state : Delivery) (event : DeliveryEvent) : Prop :=
  match event with
  | .reclaim dispatcher now =>
    state.phases dispatcher = .idle ∧ ∃ row ∈ state.store.outbox,
      Store.leasedBefore (now.before setup.dispatcher.lease) row = true ∧
        ∃ holder, ∃ copy ∈ (state.phases holder).held, copy.id = row.id
  | _ => False

theorem not_overtakes (free : ∀ row ∈ state.store.outbox,
    Store.leasedBefore (now.before setup.dispatcher.lease) row = false) :
    ¬state.Overtakes setup (.reclaim dispatcher now) := by
  rintro ⟨-, row, member, leased, -⟩
  rw [free row member] at leased
  contradiction

/-- No event of the run takes the lease of a row from a dispatcher that still holds the row. -/
def Punctual (setup : DeliverySetup) (state : Delivery) : List DeliveryEvent → Prop
  | [] => True
  | event :: rest => ¬state.Overtakes setup event ∧ (state.step setup event).Punctual setup rest

/-- Each row that a dispatcher holds is leased, counts what the copy counts, and is held once. -/
structure Exclusive (state : Delivery) : Prop where
  held : ∀ dispatcher, ∀ copy ∈ (state.phases dispatcher).held,
    ∃ row, state.store.outboxRow? copy.id = some row ∧ row.status = .processing ∧
      row.attempts = copy.attempts
  distinct : ∀ dispatcher, ((state.phases dispatcher).held.map (·.id)).Nodup
  apart : ∀ dispatcher other, dispatcher ≠ other → ∀ copy ∈ (state.phases dispatcher).held,
    ∀ another ∈ (state.phases other).held, copy.id ≠ another.id

/-- Rows stay exclusive if dispatchers hold no others than before, and the rows that they hold are
left alone. -/
theorem Exclusive.keep (exclusive : state.Exclusive)
    (unique : (state.store.outbox.map (·.id)).Nodup)
    (fewer : ∀ dispatcher, ((state.step setup event).phases dispatcher).held.Sublist
      (state.phases dispatcher).held)
    (same : ∀ dispatcher, ∀ copy ∈ ((state.step setup event).phases dispatcher).held,
      ∀ row, state.store.outboxRow? copy.id = some row → row.status = .processing →
        state.change setup event row = row) : (state.step setup event).Exclusive where
  held dispatcher copy held := by
    obtain ⟨row, lookup, processing, attempts⟩ :=
      exclusive.held dispatcher copy ((fewer dispatcher).subset held)
    refine ⟨row, ?_, processing, attempts⟩
    rw [step_row setup unique event lookup, same dispatcher copy held row lookup processing]
  distinct dispatcher := (exclusive.distinct dispatcher).sublist ((fewer dispatcher).map _)
  apart dispatcher other different copy held another heldToo :=
    exclusive.apart dispatcher other different copy ((fewer dispatcher).subset held) another
      ((fewer other).subset heldToo)

/-- What a dispatcher claims is held by no other, since what is held is leased. -/
theorem Exclusive.claims_free (exclusive : state.Exclusive)
    (unique : (state.store.outbox.map (·.id)).Nodup)
    (phase : state.phases dispatcher = .reclaimed now) {holder : Nat} {copy : OutboxRow}
    (held : copy ∈ (state.phases holder).held) :
    ∀ new ∈ ((state.step setup (.claim dispatcher)).phases dispatcher).held, copy.id ≠ new.id := by
  intro new claims same
  obtain ⟨row, lookup, claimable, -⟩ := claimed_rows unique phase new claims
  obtain ⟨leased, again, processing, -⟩ := exclusive.held holder copy held
  rw [same] at again
  obtain rfl := Option.some.inj (lookup.symm.trans again)
  have status := claimable_status claimable
  simp [processing] at status

theorem Exclusive.claim (exclusive : state.Exclusive)
    (unique : (state.store.outbox.map (·.id)).Nodup)
    (phase : state.phases dispatcher = .reclaimed now) :
    (state.step setup (.claim dispatcher)).Exclusive := by
  obtain ⟨taken, sublist, -, -, claimed⟩ := step_claim setup unique phase
  have others : ∀ other, other ≠ dispatcher →
      (state.step setup (.claim dispatcher)).phases other = state.phases other := by
    intro other different
    rw [claimed, withPhase_other different]
    rfl
  constructor
  case held =>
    intro holder copy held
    by_cases own : holder = dispatcher
    · subst own
      obtain ⟨row, lookup, -, rfl⟩ := claimed_rows unique phase copy held
      refine ⟨_, step_row setup unique (.claim holder) lookup, ?_⟩
      have listed : row.id ∈ ((state.step setup (.claim holder)).phases holder).held.map (·.id) :=
        List.mem_map.mpr ⟨_, held, rfl⟩
      have made : state.change setup (.claim holder) row = row.markProcessing now := by
        simp only [change, phase, leaseIf, if_pos listed]
      rw [made]
      exact ⟨rfl, rfl⟩
    · rw [others holder own] at held
      obtain ⟨row, lookup, processing, attempts⟩ := exclusive.held holder copy held
      refine ⟨row, ?_, processing, attempts⟩
      rw [step_row setup unique (.claim dispatcher) lookup]
      simp only [change, phase, leaseIf]
      refine congrArg some (if_neg fun listed => ?_)
      obtain ⟨new, claims, same⟩ := List.mem_map.mp listed
      have named := (Store.outboxRow?_some lookup).2
      exact exclusive.claims_free unique phase held new claims (named.symm.trans same.symm)
  case distinct =>
    intro holder
    by_cases own : holder = dispatcher
    · rw [own, claimed, withPhase_self, DispatchPhase.held_ofRows, List.map_map]
      exact unique.sublist (sublist.map _)
    · rw [others holder own]
      exact exclusive.distinct holder
  case apart =>
    intro holder other different copy held another heldToo
    by_cases own : holder = dispatcher
    · subst own
      rw [others other different.symm] at heldToo
      exact (exclusive.claims_free unique phase heldToo copy held).symm
    · rw [others holder own] at held
      by_cases theirs : other = dispatcher
      · subst theirs
        exact exclusive.claims_free unique phase held another heldToo
      · rw [others other theirs] at heldToo
        exact exclusive.apart holder other different copy held another heldToo

theorem held_withPhase_sublist {current : Delivery} {phase : DispatchPhase}
    (same : current.phases = state.phases)
    (fewer : phase.held.Sublist (state.phases dispatcher).held) (holder : Nat) :
    ((current.withPhase dispatcher phase).phases holder).held.Sublist
      (state.phases holder).held := by
  by_cases own : holder = dispatcher
  · subst own
    rw [withPhase_self]
    exact fewer
  · rw [withPhase_other own, same]

/-- After its report a dispatcher holds the row no more, and the others never held it. -/
theorem Exclusive.report {copy : OutboxRow} {result : Except BrokerError Unit}
    {rest : List OutboxRow} (exclusive : state.Exclusive)
    (unique : (state.store.outbox.map (·.id)).Nodup)
    (phase : state.phases dispatcher = .reporting copy result rest) :
    (state.step setup (.report dispatcher now)).Exclusive := by
  have holds : (state.phases dispatcher).held = copy :: rest := by
    rw [phase]
    rfl
  have reported : copy ∈ (state.phases dispatcher).held := by
    rw [holds]
    exact List.mem_cons_self
  have distinct := exclusive.distinct dispatcher
  rw [holds] at distinct
  obtain ⟨row, lookup, -⟩ := exclusive.held dispatcher copy reported
  have done : state.step setup (.report dispatcher now) =
      (state.withStore (state.store.withRows
        (settleIf setup.dispatcher copy result now))).withPhase dispatcher (.ofRows rest) :=
    step_report unique phase lookup
  refine exclusive.keep unique ?_ ?_
  · rw [done]
    refine held_withPhase_sublist rfl ?_
    rw [DispatchPhase.held_ofRows, holds]
    exact List.sublist_cons_self copy rest
  · intro holder other held row lookup _
    have named := (Store.outboxRow?_some lookup).2
    simp only [change, phase, settleIf]
    refine if_neg fun same => ?_
    rw [done] at held
    by_cases own : holder = dispatcher
    · rw [own, withPhase_self, DispatchPhase.held_ofRows] at held
      exact (List.nodup_cons.mp distinct).1
        (List.mem_map.mpr ⟨other, held, named.symm.trans same⟩)
    · rw [withPhase_other own] at held
      exact exclusive.apart holder dispatcher own other held copy reported
        (named.symm.trans same)

theorem step_exclusive (exclusive : state.Exclusive)
    (unique : (state.store.outbox.map (·.id)).Nodup) (event : DeliveryEvent)
    (punctual : ¬state.Overtakes setup event) : (state.step setup event).Exclusive := by
  cases event with
  | reclaim dispatcher now =>
      cases phase : state.phases dispatcher with
      | idle =>
          have fewer : ∀ holder, ((state.step setup (.reclaim dispatcher now)).phases
              holder).held.Sublist (state.phases holder).held := by
            simp only [step, phase]
            exact held_withPhase_sublist rfl (List.nil_sublist _)
          refine exclusive.keep unique fewer ?_
          intro holder copy held row lookup processing
          obtain ⟨present, named⟩ := Store.outboxRow?_some lookup
          simp only [change, phase, reclaimIf]
          refine if_neg fun leased => punctual ?_
          exact ⟨phase, row, present, leased, holder, copy, (fewer holder).subset held, named.symm⟩
      | _ => simpa only [step, phase] using exclusive
  | claim dispatcher =>
      cases phase : state.phases dispatcher with
      | reclaimed now => exact exclusive.claim unique phase
      | _ => simpa only [step, phase] using exclusive
  | publish dispatcher handover =>
      cases phase : state.phases dispatcher with
      | publishing row rest =>
          refine exclusive.keep unique ?_ fun _ _ _ _ _ _ => rfl
          simp only [step, phase]
          refine held_withPhase_sublist rfl ?_
          rw [phase]
          exact .refl _
      | _ => simpa only [step, phase] using exclusive
  | report dispatcher now =>
      cases phase : state.phases dispatcher with
      | reporting copy result rest => exact exclusive.report unique phase
      | _ => simpa only [step, phase] using exclusive
  | abandon dispatcher =>
      exact exclusive.keep unique (held_withPhase_sublist rfl (List.nil_sublist _))
        fun _ _ _ _ _ _ => rfl
  | requeue ids now =>
      refine exclusive.keep unique (fun _ => .refl _) ?_
      intro _ _ _ row _ processing
      refine if_neg fun asked => ?_
      rw [asked.1] at processing
      contradiction
  | settle | seed | arrive | poll | refuse =>
      exact exclusive.keep unique (fun _ => .refl _) fun _ _ _ _ _ _ => rfl

theorem punctual_append (first second : List DeliveryEvent) :
    state.Punctual setup (first ++ second) ↔
      state.Punctual setup first ∧ (state.afterAll setup first).Punctual setup second := by
  induction first generalizing state with
  | nil => simp [Punctual, afterAll]
  | cons event rest ih =>
      simp only [List.cons_append, Punctual, ih, and_assoc]
      rfl

theorem reached_exclusive {run : List DeliveryEvent} (punctual : start.Punctual setup run) :
    (reached setup run).Exclusive := by
  induction run using List.reverseRecOn with
  | nil => exact ⟨fun _ _ => nofun, fun _ => .nil, fun _ _ _ _ => nofun⟩
  | append_singleton run event ih =>
      obtain ⟨before, last⟩ := (punctual_append run [event]).mp punctual
      rw [reached_concat]
      exact step_exclusive (ih before) (reached_issued setup run).1 event last.1

/-- The failures that a row counts stay within the limit. -/
theorem reached_attempts_le (setup : DeliverySetup) (run : List DeliveryEvent) :
    ∀ row ∈ (reached setup run).store.outbox, row.attempts ≤ attemptLimit := by
  refine reached_induction (fun state => ∀ row ∈ state.store.outbox, row.attempts ≤ attemptLimit)
    (by simp [start]) ?_
  intro earlier event _ bounded row member
  have unique := (reached_issued setup earlier).1
  obtain ⟨rows, adds⟩ := step_adds setup unique event
  rw [adds.outbox] at member
  obtain changed | added := List.mem_append.mp member
  · obtain ⟨before, present, rfl⟩ := List.mem_map.mp changed
    have bound := bounded before present
    obtain same | ⟨_, _, -, -, same⟩ | ⟨_, _, -, -, same⟩ | ⟨_, _, copy, result, _, -, -, -, same⟩ |
      ⟨_, _, -, -, same⟩ := change_cases setup event unique (Store.outboxRow?_of_mem unique present)
    · rwa [same]
    · rw [same]
      exact bound
    · rw [same]
      exact bound
    · rw [same]
      cases result with
      | ok => exact bound
      | error error =>
          rw [(settled_error error).2]
          exact Nat.min_le_right _ _
    · rw [same]
      exact Nat.zero_le _
  · rw [(adds.unsent row added).2]
    exact Nat.zero_le _

/-- A dispatcher reports about rows that are leased, and counts what they count. -/
theorem Exclusive.reporting {copy : OutboxRow} {result : Except BrokerError Unit}
    {rest : List OutboxRow} (exclusive : state.Exclusive)
    (phase : state.phases dispatcher = .reporting copy result rest)
    (lookup : state.store.outboxRow? copy.id = some row) :
    row.status = .processing ∧ row.attempts = copy.attempts := by
  have held : copy ∈ (state.phases dispatcher).held := by
    rw [phase]
    exact List.mem_cons_self
  obtain ⟨found, again, processing, attempts⟩ := exclusive.held dispatcher copy held
  obtain rfl := Option.some.inj (lookup.symm.trans again)
  exact ⟨processing, attempts⟩

/-- An event leaves a row alone that was delivered. -/
theorem Exclusive.published_stays (exclusive : state.Exclusive)
    (unique : (state.store.outbox.map (·.id)).Nodup)
    (lookup : state.store.outboxRow? id = some row) (published : row.status = .published) :
    (state.step setup event).store.outboxRow? id = some row := by
  rw [step_row setup unique event lookup]
  obtain same | ⟨_, _, -, leased, -⟩ | ⟨_, _, -, claimable, -⟩ |
    ⟨_, _, copy, _, _, -, phase, rfl, -⟩ | ⟨_, _, -, asked, -⟩ :=
    change_cases setup event unique lookup
  · rw [same]
  · rw [leasedBefore_processing leased] at published
    contradiction
  · have status := claimable_status claimable
    simp [published] at status
  · rw [(exclusive.reporting phase lookup).1] at published
    contradiction
  · rw [asked.1] at published
    contradiction

theorem published_stays {run later : List DeliveryEvent}
    (punctual : start.Punctual setup (run ++ later))
    (lookup : (reached setup run).store.outboxRow? id = some row)
    (published : row.status = .published) :
    (reached setup (run ++ later)).store.outboxRow? id = some row := by
  induction later using List.reverseRecOn with
  | nil => rwa [List.append_nil]
  | append_singleton later event ih =>
      rw [← List.append_assoc] at punctual ⊢
      have before := ((punctual_append (run ++ later) [event]).mp punctual).1
      rw [reached_concat]
      exact (reached_exclusive before).published_stays (reached_issued setup _).1 (ih before)
        published

/-- If no lease runs out under a dispatcher, failures become fewer only by queuing a row again. -/
theorem requeues_of_attempts_lt {run : List DeliveryEvent}
    (punctual : start.Punctual setup run)
    (lookup : (reached setup run).store.outboxRow? id = some row)
    (fewer : ((reached setup run).change setup event row).attempts < row.attempts) :
    Requeues event row := by
  obtain ⟨requeues, -⟩ | ⟨copy, failed, rfl, fewer⟩ :=
    (change_attempts_lt (reached_issued setup run).1 lookup).mp fewer
  · exact requeues
  · obtain ⟨_, _, _, _, -, phase⟩ := failed?_some failed
    have counts := ((reached_exclusive punctual).reporting phase lookup).2
    have bound := reached_attempts_le setup run row (Store.outboxRow?_some lookup).1
    omega

/-- Of all that may happen, only a report of a failure takes a row back that was delivered, and only
that or queuing a row again takes back failures that were counted; rows that were delivered are not
claimed.  If no dispatcher loses the lease of a row that it holds, a row that was delivered stays as
it is. -/
theorem delivery_is_final_unless_leases_run_out (setup : DeliverySetup)
    (run : List DeliveryEvent) :
    (∀ event id row, (reached setup run).store.outboxRow? id = some row →
      ∃ next, (reached setup (run ++ [event])).store.outboxRow? id = some next ∧
        (row.status = .published → (next.status ≠ .published ↔
          ∃ copy, (reached setup run).failed? event = some copy ∧ copy.id = id)) ∧
        (next.attempts < row.attempts ↔ Requeues event row ∧ 0 < row.attempts ∨
          ∃ copy, (reached setup run).failed? event = some copy ∧ copy.id = id ∧
            min (copy.attempts + 1) attemptLimit < row.attempts)) ∧
    (∀ dispatcher now, (reached setup run).phases dispatcher = .reclaimed now →
      ∀ copy ∈ ((reached setup (run ++ [.claim dispatcher])).phases dispatcher).held,
        ∃ row, (reached setup run).store.outboxRow? copy.id = some row ∧
          row.status ≠ .published) ∧
    (∀ later, start.Punctual setup (run ++ later) → ∀ id row,
      (reached setup run).store.outboxRow? id = some row → row.status = .published →
        (reached setup (run ++ later)).store.outboxRow? id = some row) ∧
    (start.Punctual setup run → ∀ event id row next,
      (reached setup run).store.outboxRow? id = some row →
        (reached setup (run ++ [event])).store.outboxRow? id = some next →
        next.attempts < row.attempts → Requeues event row) := by
  have unique := (reached_issued setup run).1
  refine ⟨?_, ?_, ?_, ?_⟩
  · intro event id row lookup
    refine ⟨(reached setup run).change setup event row, ?_, ?_, ?_⟩
    · rw [reached_concat]
      exact step_row setup unique event lookup
    · exact change_published unique lookup
    · exact change_attempts_lt unique lookup
  · intro dispatcher now phase copy held
    rw [reached_concat] at held
    obtain ⟨row, lookup, claimable, -⟩ := claimed_rows unique phase copy held
    refine ⟨row, lookup, ?_⟩
    have status := claimable_status claimable
    intro published
    simp [published] at status
  · intro later punctual id row lookup published
    exact published_stays punctual lookup published
  · intro punctual event id row next lookup again fewer
    rw [reached_concat, step_row setup unique event lookup] at again
    obtain rfl := Option.some.inj again
    exact requeues_of_attempts_lt punctual lookup fewer

end Delivery

/-! In the sample the first dispatcher may be so slow that a second one takes its leases. -/

namespace Sample

/-- Its leases have run out before it published anything, and the second has published the row. -/
def overtaken : List DeliveryEvent :=
  leased ++ [.reclaim 1 (minute 3), .claim 1, .publish 1 .answered, .report 1 (minute 3)]

/-- Only then the first one finds that it cannot publish the row. -/
def failedLate : List DeliveryEvent :=
  overtaken ++ [.publish 0 (.lost (.connection "timeout")), .report 0 (minute 3)]

/-- The second one turns to the outbox again. -/
def claimedAgain : List DeliveryEvent :=
  failedLate ++ [.abandon 1, .reclaim 1 (minute 4), .claim 1]

end Sample

namespace Delivery

/-- The delivered row of the sample stays as it is, whatever another dispatcher does meanwhile. -/
theorem sample_delivery_is_final :
    ∃ row, (reached Sample.delivery Sample.published).store.outboxRow? row.id = some row ∧
      row.status = .published ∧
      (reached Sample.delivery (Sample.published ++
        [.reclaim 1 (Sample.minute 1), .claim 1])).store.outboxRow? row.id = some row := by
  have delivered : ∃ row ∈ (reached Sample.delivery Sample.published).store.outbox,
      row.status = .published := by decide +kernel
  have punctual : start.Punctual Sample.delivery
      (Sample.published ++ [.reclaim 1 (Sample.minute 1), .claim 1]) := by
    simp only [Sample.published, Sample.leased, List.cons_append, List.nil_append, Punctual]
    exact ⟨not_false, not_false, not_overtakes (by decide +kernel), not_false, not_false, not_false,
      not_overtakes (by decide +kernel), not_false, trivial⟩
  obtain ⟨row, member, status⟩ := delivered
  have lookup := Store.outboxRow?_of_mem (reached_issued Sample.delivery Sample.published).1 member
  have final := delivery_is_final_unless_leases_run_out Sample.delivery Sample.published
  exact ⟨row, lookup, status, final.2.2.1 _ punctual _ row lookup status⟩

/-- The row is taken back after it was delivered, and claimed once more. -/
theorem sample_late_failure_takes_back :
    ∃ row ∈ (reached Sample.delivery Sample.overtaken).store.outbox, row.status = .published ∧
      (∃ next ∈ (reached Sample.delivery Sample.failedLate).store.outbox,
        next.id = row.id ∧ next.status = .failed) ∧
      ∃ copy ∈ ((reached Sample.delivery Sample.claimedAgain).phases 1).held, copy.id = row.id := by
  decide +kernel

end Delivery

end SpotSettlement
