import SpotSettlement.Engine.Dispatch
import SpotSettlement.Proofs.Store.Identifiers

namespace SpotSettlement

/-! # What the relay does to the outbox

The relay changes how far the delivery of a row has come, and nothing of what is delivered.  As long
as rows have identifiers of their own, each of its operations changes every row by itself.
-/

namespace OutboxRow

variable {row other : OutboxRow}

/-- The row as it was made, before anything was done to deliver it. -/
def asMade (row : OutboxRow) : OutboxRow :=
  { row with
    status := .new
    attempts := 0
    nextAttemptAt := row.createdAt
    processingStartedAt := none
    publishedAt := none
    lastError := none }

theorem asMade_id (same : row.asMade = other.asMade) : row.id = other.id := by
  change row.asMade.id = other.asMade.id
  rw [same]

/-- What a row announces, and to which topic, was settled when it was made. -/
theorem asMade_announcement (same : row.asMade = other.asMade) :
    row.eventType = other.eventType ∧ row.aggregateId = other.aggregateId ∧
      row.topic = other.topic ∧ row.payload = other.payload :=
  ⟨congrArg (·.eventType) same, congrArg (·.aggregateId) same, congrArg (·.topic) same,
    congrArg (·.payload) same⟩

theorem leasedBefore_processing {cutoff : Instant} (leased : Store.leasedBefore cutoff row = true) :
    row.status = .processing := by
  simp only [Store.leasedBefore, Bool.and_eq_true, beq_iff_eq] at leased
  exact leased.1

theorem claimable_status {now : Instant} (claimable : Store.claimable now row = true) :
    row.status = .new ∨ row.status = .failed := by
  simp only [Store.claimable, Bool.and_eq_true] at claimable
  revert claimable
  cases row.status <;> simp [OutboxStatus.isClaimable]

/-- A change of rows that leaves them as they were made. -/
def Relaying (change : OutboxRow → OutboxRow) : Prop := ∀ row, (change row).asMade = row.asMade

theorem Relaying.id_eq {change : OutboxRow → OutboxRow} (relaying : Relaying change)
    (row : OutboxRow) : (change row).id = row.id :=
  asMade_id (relaying row)

/-- A row whose lease began before a moment is returned, any other is left alone. -/
def reclaimIf (cutoff now : Instant) (row : OutboxRow) : OutboxRow :=
  if Store.leasedBefore cutoff row then row.reclaim now else row

/-- A row with one of the identifiers is leased. -/
def leaseIf (ids : List String) (now : Instant) (row : OutboxRow) : OutboxRow :=
  if row.id ∈ ids then row.markProcessing now else row

/-- Whether the row was set aside and is asked for. -/
def RequeuedBy (ids : Option (List String)) (row : OutboxRow) : Prop :=
  row.status = .dead ∧ ∀ listed, ids = some listed → row.id ∈ listed

instance (ids : Option (List String)) (row : OutboxRow) : Decidable (row.RequeuedBy ids) :=
  match ids with
  | none => decidable_of_iff (row.status = .dead) (by simp [RequeuedBy])
  | some listed =>
    decidable_of_iff (row.status = .dead ∧ row.id ∈ listed) (by simp [RequeuedBy])

/-- A row that was set aside and is asked for is queued again. -/
def requeueIf (ids : Option (List String)) (now : Instant) (row : OutboxRow) : OutboxRow :=
  if row.RequeuedBy ids then row.requeue now else row

/-- What a dispatcher makes of a row when its attempt to publish a copy of it has ended. -/
def settled (row : OutboxRow) (dispatcher : DispatcherSetup) (copy : OutboxRow)
    (result : Except BrokerError Unit) (now : Instant) : OutboxRow :=
  match result with
  | .ok () => row.markPublished now
  | .error error => row.settleFailure error.message (copy.nextFailure dispatcher.schedule now)

/-- After a failure the row has one attempt more than the copy, up to the limit. -/
theorem settled_error {dispatcher : DispatcherSetup} {copy : OutboxRow} {now : Instant}
    (error : BrokerError) :
    (row.settled dispatcher copy (.error error) now).status ≠ .published ∧
      (row.settled dispatcher copy (.error error) now).attempts =
        min (copy.attempts + 1) attemptLimit := by
  simp only [settled, nextFailure, RetrySchedule.onFailure]
  split
  · exact ⟨nofun, rfl⟩
  · exact ⟨nofun, rfl⟩

/-- The row with the identifier of the copy is settled. -/
def settleIf (dispatcher : DispatcherSetup) (copy : OutboxRow) (result : Except BrokerError Unit)
    (now : Instant) (row : OutboxRow) : OutboxRow :=
  if row.id = copy.id then row.settled dispatcher copy result now else row

theorem reclaimIf_relaying (cutoff now : Instant) : Relaying (reclaimIf cutoff now) := by
  intro row
  unfold reclaimIf
  split <;> rfl

theorem leaseIf_relaying (ids : List String) (now : Instant) : Relaying (leaseIf ids now) := by
  intro row
  unfold leaseIf
  split <;> rfl

theorem requeueIf_relaying (ids : Option (List String)) (now : Instant) :
    Relaying (requeueIf ids now) := by
  intro row
  unfold requeueIf
  split <;> rfl

theorem settleIf_relaying (dispatcher : DispatcherSetup) (copy : OutboxRow)
    (result : Except BrokerError Unit) (now : Instant) :
    Relaying (settleIf dispatcher copy result now) := by
  intro row
  unfold settleIf
  split
  · cases result with
    | ok => rfl
    | error error =>
        unfold settled settleFailure
        cases copy.nextFailure dispatcher.schedule now <;> rfl
  · rfl

end OutboxRow

open OutboxRow

namespace Store

variable {store after : Store} {row copy : OutboxRow} {change : OutboxRow → OutboxRow} {id : String}

def withRows (store : Store) (change : OutboxRow → OutboxRow) : Store :=
  { store with outbox := store.outbox.map change }

theorem withRows_self (store : Store) : store.withRows (fun row => row) = store :=
  congrArg (fun outbox => { store with outbox }) (List.map_id' _)

theorem outboxRow?_some (lookup : store.outboxRow? id = some row) :
    row ∈ store.outbox ∧ row.id = id :=
  ⟨List.mem_of_find?_eq_some lookup, by simpa using List.find?_some lookup⟩

theorem outboxRow?_of_mem (unique : (store.outbox.map (·.id)).Nodup)
    (member : row ∈ store.outbox) : store.outboxRow? row.id = some row := by
  cases lookup : store.outboxRow? row.id with
  | none =>
      have different := List.find?_eq_none.mp lookup row member
      simp at different
  | some found =>
      obtain ⟨present, same⟩ := outboxRow?_some lookup
      exact congrArg some (List.inj_on_of_nodup_map unique present member same)

theorem outboxRow?_withRows (relaying : Relaying change) :
    (store.withRows change).outboxRow? id = (store.outboxRow? id).map change := by
  have same : ((fun row : OutboxRow => row.id == id) ∘ change) = fun row => row.id == id := by
    funext row
    simp only [Function.comp_apply, relaying.id_eq]
  rw [outboxRow?, withRows, List.find?_map, same]
  rfl

theorem ids_withRows (relaying : Relaying change) :
    (store.withRows change).outbox.map (·.id) = store.outbox.map (·.id) := by
  rw [withRows, List.map_map]
  exact List.map_congr_left fun row _ => relaying.id_eq row

theorem perform_reclaimStale (store : Store) (lease : Duration) (now : Instant) :
    (store.perform (reclaimStale lease now)).2 =
      store.withRows (reclaimIf (now.before lease) now) := rfl

theorem perform_requeueDead (store : Store) (ids : Option (List String)) (now : Instant) :
    (store.perform (requeueDead ids now)).2 = store.withRows (requeueIf ids now) := by
  cases ids with
  | none =>
      refine congrArg (fun outbox => { store with outbox }) (List.map_congr_left fun row _ => ?_)
      simp [requeueIf, RequeuedBy]
  | some listed =>
      refine congrArg (fun outbox => { store with outbox }) (List.map_congr_left fun row _ => ?_)
      simp [requeueIf, RequeuedBy]

/-- A batch is taken from the rows that may be claimed, at most so many, and these are leased. -/
theorem claimRows_cases (now : Instant) (limit : Nat) (rows : List OutboxRow) :
    ∃ taken : List OutboxRow, taken.Sublist rows ∧ (∀ row ∈ taken, claimable now row = true) ∧
      taken.length ≤ limit ∧ (claimRows now limit rows).1 = taken.map (·.markProcessing now) ∧
      ((rows.map (·.id)).Nodup →
        (claimRows now limit rows).2 = rows.map (leaseIf (taken.map (·.id)) now)) := by
  induction rows generalizing limit with
  | nil => exact ⟨[], .slnil, by simp, Nat.zero_le _, by simp [claimRows], by simp [claimRows]⟩
  | cons row rest ih =>
      cases limit with
      | zero =>
          refine ⟨[], List.nil_sublist _, by simp, Nat.le_refl _, rfl, fun _ => ?_⟩
          exact (List.map_id' (row :: rest)).symm
      | succ limit =>
          unfold claimRows
          split
          · next allowed =>
              obtain ⟨taken, sublist, claimables, bound, claimed, leased⟩ := ih limit
              refine ⟨row :: taken, sublist.cons_cons row, ?_, Nat.succ_le_succ bound, ?_, ?_⟩
              · simpa [allowed] using claimables
              · simp [claimed]
              · intro unique
                obtain ⟨fresh, unique⟩ := List.nodup_cons.mp unique
                simp only [leased unique, List.map_cons, leaseIf, List.mem_cons, true_or, if_true,
                  List.cons.injEq, true_and]
                apply List.map_congr_left
                intro other member
                have different : other.id ≠ row.id := fun same =>
                  fresh (List.mem_map.mpr ⟨other, member, same⟩)
                simp only [leaseIf, List.mem_cons, different, false_or]
          · next refused =>
              obtain ⟨taken, sublist, claimables, bound, claimed, leased⟩ := ih (limit + 1)
              refine ⟨taken, sublist.cons row, claimables, bound, claimed, ?_⟩
              intro unique
              obtain ⟨fresh, unique⟩ := List.nodup_cons.mp unique
              have untaken : row.id ∉ taken.map (·.id) := fun listed =>
                fresh ((sublist.map _).subset listed)
              simp only [leased unique, List.map_cons, leaseIf, if_neg untaken]

theorem perform_claimBatch_le (store : Store) (limit : Nat) (now : Instant) :
    ∃ rows after, store.perform (claimBatch limit now) = (.ok rows, after) ∧
      rows.length ≤ limit := by
  obtain ⟨taken, -, -, bound, claimed, -⟩ := claimRows_cases now limit store.outbox
  refine ⟨_, _, rfl, ?_⟩
  rw [claimed, List.length_map]
  exact bound

theorem perform_claimBatch (unique : (store.outbox.map (·.id)).Nodup) (limit : Nat)
    (now : Instant) :
    ∃ taken : List OutboxRow, taken.Sublist store.outbox ∧
      (∀ row ∈ taken, claimable now row = true) ∧ taken.length ≤ limit ∧
      store.perform (claimBatch limit now) = (.ok (taken.map (·.markProcessing now)),
        store.withRows (leaseIf (taken.map (·.id)) now)) := by
  obtain ⟨taken, sublist, claimables, bound, claimed, leased⟩ :=
    claimRows_cases now limit store.outbox
  refine ⟨taken, sublist, claimables, bound, ?_⟩
  rw [withRows, ← claimed, ← leased unique]
  rfl

theorem changeRow_eq_map (rows : List OutboxRow) (unique : (rows.map (·.id)).Nodup) :
    changeRow id change rows = rows.map fun row => if row.id = id then change row else row := by
  induction rows with
  | nil => rfl
  | cons row rest ih =>
      obtain ⟨fresh, unique⟩ := List.nodup_cons.mp unique
      by_cases same : row.id = id
      · simp only [changeRow, same, beq_self_eq_true, if_true, List.map_cons, List.cons.injEq,
          true_and]
        -- No other row has the identifier.
        have others : ∀ other ∈ rest, (if other.id = id then change other else other) = other :=
          fun other member => if_neg fun again =>
            fresh (List.mem_map.mpr ⟨other, member, again.trans same.symm⟩)
        exact ((List.map_congr_left others).trans (List.map_id' rest)).symm
      · simp only [changeRow, beq_iff_eq, if_neg same, List.map_cons, ih unique]

theorem changeOutbox_ok {u : Unit} :
    (changeOutbox id change).run store = .ok (u, after) ↔
      (store.outboxRow? id).isNone = false ∧
        { store with outbox := changeRow id change store.outbox } = after := by
  unfold changeOutbox
  rw [Work.get_bind_ok, Work.refuse_if_ok, Work.set_ok, Bool.not_eq_true]

/-- Whatever came of publishing a row, it is settled by one change of the row. -/
theorem settle_eq (dispatcher : DispatcherSetup) (copy : OutboxRow)
    (result : Except BrokerError Unit) (report : DispatchReport) (now : Instant) :
    ∃ done, dispatcher.settle copy result report now =
      changeOutbox copy.id (·.settled dispatcher copy result now) >>= fun _ => pure done := by
  cases result with
  | ok => exact ⟨_, rfl⟩
  | error error =>
      unfold DispatcherSetup.settle settled
      cases copy.nextFailure dispatcher.schedule now with
      | retry => exact ⟨_, rfl⟩
      | dead => exact ⟨_, rfl⟩

theorem perform_settle (dispatcher : DispatcherSetup) (report : DispatchReport)
    (result : Except BrokerError Unit) (now : Instant)
    (unique : (store.outbox.map (·.id)).Nodup) (present : store.outboxRow? copy.id = some row) :
    ∃ done, store.perform (dispatcher.settle copy result report now) =
      (.ok done, store.withRows (settleIf dispatcher copy result now)) := by
  obtain ⟨done, same⟩ := settle_eq dispatcher copy result report now
  refine ⟨done, perform_ok_iff.mpr ?_⟩
  rw [same, Work.bind_ok]
  refine ⟨(), _, changeOutbox_ok.mpr ⟨by rw [present]; rfl, rfl⟩, Work.pure_ok.mpr ⟨rfl, ?_⟩⟩
  rw [changeRow_eq_map store.outbox unique]
  rfl

theorem perform_settle_absent (dispatcher : DispatcherSetup) (report : DispatchReport)
    (result : Except BrokerError Unit) (now : Instant)
    (absent : store.outboxRow? copy.id = none) :
    ∃ failure, store.perform (dispatcher.settle copy result report now) =
      (.error failure, store) := by
  obtain ⟨done, same⟩ := settle_eq dispatcher copy result report now
  cases outcome : (store.perform (dispatcher.settle copy result report now)).1 with
  | error failure => exact ⟨failure, Prod.ext outcome (perform_error outcome)⟩
  | ok value =>
      have succeeded := perform_ok outcome
      rw [same, Work.bind_ok] at succeeded
      obtain ⟨_, _, changed, -⟩ := succeeded
      rw [changeOutbox_ok, absent] at changed
      exact absurd changed.1 (by simp)

end Store

end SpotSettlement
