import SpotSettlement.Proofs.Store.Identifiers
import SpotSettlement.Store.Connectors

namespace SpotSettlement

/-! # The queue of replay requests

Requests come in behind those that were queued before, unless an open one stands in for them.
Workers claim the oldest request that waits, and complete what they claimed.  The queue is followed
through every run in which these calls come in any order, with anything else in between that leaves
the requests alone.
-/

theorem Instant.lt_before_iff {earlier later : Instant} (bounded : first ≤ earlier)
    (window : Duration) : earlier < later.before window ↔
      earlier.nanoseconds + window.nanoseconds < later.nanoseconds := by
  simp only [le_iff, lt_iff, before] at *
  omega

namespace ReplayRequest

/-- The request is for a worker of the connector to claim. -/
def Waits (request : ReplayRequest) (connector : String) : Prop :=
  request.connector = connector ∧ request.status = .pending

/-- The request has the moments that its status calls for, and no others. -/
def Timed (request : ReplayRequest) : Prop :=
  match request.status with
  | .pending => request.startedAt = none ∧ request.completedAt = none
  | .running => request.startedAt.isSome ∧ request.completedAt = none
  | .succeeded | .failed => request.startedAt.isSome ∧ request.completedAt.isSome

/-- The request as it was when it was queued. -/
def asQueued (request : ReplayRequest) : ReplayRequest :=
  { request with status := .pending, startedAt := none, completedAt := none, error := none }

/-- The request as a worker has it that claims it at a moment. -/
def claimedAt (request : ReplayRequest) (now : Instant) : ReplayRequest :=
  { request with status := .running, startedAt := some now }

/-- If both requests are open and of one kind, the earlier one was made before the window of the
later one, which ends where time does. -/
def Apart (earlier later : ReplayRequest × Duration) : Prop :=
  earlier.1.status.isOpen → later.1.status.isOpen →
    earlier.1.connector = later.1.connector → earlier.1.trigger = later.1.trigger →
      earlier.1.requestedAt < later.1.requestedAt.before later.2 ∧
        (Instant.first ≤ earlier.1.requestedAt →
          earlier.1.requestedAt.nanoseconds + later.2.nanoseconds <
            later.1.requestedAt.nanoseconds)

variable {request changed other : ReplayRequest} {now : Instant} {status : ReplayStatus}

/-- Requests that only closed in the meantime are still apart. -/
theorem Apart.mono {earlier later laterEarlier laterLater : ReplayRequest} {window first : Duration}
    (apart : Apart (earlier, first) (later, window))
    (sameEarlier : laterEarlier.asQueued = earlier.asQueued)
    (sameLater : laterLater.asQueued = later.asQueued)
    (closedEarlier : laterEarlier.status.isOpen → earlier.status.isOpen)
    (closedLater : laterLater.status.isOpen → later.status.isOpen) :
    Apart (laterEarlier, first) (laterLater, window) := by
  simp only [asQueued, mk.injEq] at sameEarlier sameLater
  obtain ⟨-, connector, trigger, -, -, -, moment, -⟩ := sameEarlier
  obtain ⟨-, connectorLater, triggerLater, -, -, -, momentLater, -⟩ := sameLater
  intro openEarlier openLater sameConnector sameTrigger
  dsimp only at *
  rw [moment, momentLater]
  exact apart (closedEarlier openEarlier) (closedLater openLater)
    (by rw [← connector, ← connectorLater, sameConnector])
    (by rw [← trigger, ← triggerLater, sameTrigger])

theorem id_of_asQueued (same : changed.asQueued = request.asQueued) : changed.id = request.id :=
  congrArg (·.id) same

theorem isSome_startedAt (timed : request.Timed) (taken : request.status ≠ .pending) :
    request.startedAt.isSome := by
  unfold Timed at timed
  split at timed
  · next waiting => exact absurd waiting taken
  · exact timed.1
  · exact timed.1
  · exact timed.1

theorem timed_claimedAt (waiting : request.Timed) (pending : request.status = .pending) :
    (request.claimedAt now).Timed := by
  rw [Timed, pending] at waiting
  exact ⟨rfl, waiting.2⟩

theorem timed_completed (error : Option String) (timed : request.Timed)
    (taken : request.status ≠ .pending) (closing : status.isOpen = false) :
    Timed { request with status, completedAt := some now, error } := by
  have started := isSome_startedAt timed taken
  cases status with
  | pending | running => contradiction
  | succeeded | failed => exact ⟨started, rfl⟩

end ReplayRequest

open ReplayRequest

namespace Store

variable {rows : List ReplayRequest} {request changed other : ReplayRequest} {connector : String}

theorem earliest?_eq_none : earliest? rows = none ↔ rows = [] := by
  cases rows with
  | nil => simp [earliest?]
  | cons row rest =>
      rw [earliest?]
      cases earliest? rest with
      | none => simp
      | some other =>
          dsimp only
          split <;> simp

/-- The earliest request comes before all that are as early. -/
theorem earliest?_split (found : earliest? rows = some request) :
    ∃ before after, rows = before ++ request :: after ∧
      (∀ other ∈ before, request.requestedAt < other.requestedAt) ∧
      ∀ other ∈ after, request.requestedAt ≤ other.requestedAt := by
  induction rows generalizing request with
  | nil => contradiction
  | cons row rest ih =>
      rw [earliest?] at found
      cases later : earliest? rest with
      | none =>
          rw [later] at found
          obtain rfl := Option.some.inj found
          obtain rfl := earliest?_eq_none.mp later
          exact ⟨[], [], rfl, List.forall_mem_nil _, List.forall_mem_nil _⟩
      | some least =>
          rw [later] at found
          dsimp only at found
          obtain ⟨before, after, rfl, sooner, rest⟩ := ih later
          split at found
          · next first =>
              obtain rfl := Option.some.inj found
              refine ⟨[], _, rfl, List.forall_mem_nil _, fun other member => ?_⟩
              simp only [Instant.le_iff, Instant.lt_iff] at *
              obtain earlier | rfl | further := by simpa using member
              · have := sooner other earlier
                omega
              · exact first
              · have := rest other further
                omega
          · next second =>
              obtain rfl := Option.some.inj found
              refine ⟨row :: before, after, rfl, fun other member => ?_, rest⟩
              obtain rfl | earlier := List.mem_cons.mp member
              · simpa using second
              · exact sooner other earlier

theorem earliest?_mem (found : earliest? rows = some request) : request ∈ rows := by
  obtain ⟨before, after, rfl, -⟩ := earliest?_split found
  exact List.mem_append_right _ List.mem_cons_self

/-- A split of selected rows is a split of all rows. -/
theorem split_of_filter {selects : ReplayRequest → Bool} {before after : List ReplayRequest}
    (split : rows.filter selects = before ++ request :: after) :
    ∃ earlier later, rows = earlier ++ request :: later ∧ selects request ∧
      earlier.filter selects = before ∧ later.filter selects = after := by
  obtain ⟨earlier, rest, rfl, first, second⟩ := List.filter_eq_append_iff.mp split
  obtain ⟨between, later, rfl, none, selected, last⟩ := List.filter_eq_cons_iff.mp second
  refine ⟨earlier ++ between, later, by simp, selected, ?_, last⟩
  rw [List.filter_append, first, List.filter_eq_nil_iff.mpr none, List.append_nil]

/-- The row of a request is rewritten where it stands. -/
theorem putReplay_split {before after : List ReplayRequest}
    (unique : ((before ++ request :: after).map (·.id)).Nodup) (same : changed.id = request.id) :
    putReplay changed (before ++ request :: after) = before ++ changed :: after := by
  induction before with
  | nil => simp [putReplay, same]
  | cons row rest ih =>
      rw [List.cons_append, List.map_cons, List.nodup_cons] at unique
      have differs : row.id ≠ changed.id := by
        intro equal
        exact unique.1 (by simp [equal, same])
      rw [List.cons_append, putReplay, if_neg (by simpa using differs), ih unique.2,
        List.cons_append]

/-- What rewriting makes of a row. -/
def rewritten (changed row : ReplayRequest) : ReplayRequest :=
  if row.id = changed.id then changed else row

theorem putReplay_eq_map (unique : (rows.map (·.id)).Nodup) :
    putReplay changed rows = rows.map (rewritten changed) := by
  induction rows with
  | nil => rfl
  | cons row rest ih =>
      rw [List.map_cons, List.nodup_cons] at unique
      rw [putReplay, List.map_cons, rewritten]
      by_cases here : row.id = changed.id
      · have others : rest.map (rewritten changed) = rest := by
          refine (List.map_congr_left fun other member => if_neg fun equal => ?_).trans
            (List.map_id rest)
          exact unique.1 (List.mem_map.mpr ⟨other, member, equal.trans here.symm⟩)
        rw [if_pos (by simpa using here), if_pos here, others]
      · rw [if_neg (by simpa using here), if_neg here, ih unique.2]

variable {store after : Store}

/-- A row is rewritten to one that was queued as it was. -/
theorem rewritten_cases (unique : (rows.map (·.id)).Nodup) (member : request ∈ rows)
    (same : changed.asQueued = request.asQueued) (row : ReplayRequest) (present : row ∈ rows) :
    rewritten changed row = row ∨ row = request ∧ rewritten changed row = changed := by
  unfold rewritten
  split
  · next here =>
      have same := here.trans (id_of_asQueued same)
      exact .inr ⟨List.inj_on_of_nodup_map unique present member same, rfl⟩
  · exact .inl rfl

theorem reachConnectors_ok {u : Unit} : reachConnectors.run store = .ok (u, after) ↔
    store.connectorOutage = none ∧ store = after := by
  unfold reachConnectors
  cases outage : store.connectorOutage with
  | none => simp only [Work.get_bind_ok, outage, Work.pure_ok, true_and]
  | some problem =>
      simp only [Work.get_bind_ok, outage, Work.failing_ok, refuse_ok_iff, false_and, reduceCtorEq]

/-- The store with a request behind those that were queued. -/
def withNewReplay (store : Store) (request : ReplayRequest) : Store :=
  { store with replays := store.replays ++ [request] }

/-- The store with the row of a request rewritten. -/
def withReplay (store : Store) (changed : ReplayRequest) : Store :=
  { store with replays := putReplay changed store.replays }

theorem mem_withReplay (unique : (store.replays.map (·.id)).Nodup) (member : request ∈ store.replays)
    (same : changed.id = request.id) : changed ∈ (store.withReplay changed).replays := by
  rw [withReplay, putReplay_eq_map unique]
  exact List.mem_map.mpr ⟨request, member, if_pos same.symm⟩

/-- Queues a request under an identifier of its own. -/
def askReplay (connector : String) (trigger : ReplayTrigger) (reason requestedBy : Option String)
    (requestedAt : Instant) (window : Duration) : Work ReplayEnqueued := do
  let id ← mint
  enqueueReplay (.pending id connector trigger reason requestedBy requestedAt) window

variable {window : Duration} {queued : ReplayEnqueued} {requestedAt now : Instant}
  {trigger : ReplayTrigger} {reason requestedBy error : Option String} {id : String}
  {answer : Option ReplayRequest} {status : ReplayStatus}

/-- A request is queued unless an open one stands in for it. -/
theorem enqueueReplay_cases (done : (enqueueReplay request window).run store = .ok (queued, after)) :
    store.connectorOutage = none ∧
      ((∃ existing ∈ store.replays, standsFor window request existing ∧
          queued = .deduplicated existing ∧ after = store) ∨
        (∀ existing ∈ store.replays, standsFor window request existing = false) ∧
          queued = .enqueued request ∧ after = store.withNewReplay request) := by
  rw [enqueueReplay, Work.bind_ok] at done
  obtain ⟨_, _, reached, done⟩ := done
  obtain ⟨available, rfl⟩ := reachConnectors_ok.mp reached
  rw [Work.get_bind_ok] at done
  refine ⟨available, ?_⟩
  cases found : store.replays.find? (standsFor window request) with
  | some existing =>
      rw [found, Work.pure_ok] at done
      exact .inl ⟨existing, List.mem_of_find?_eq_some found, List.find?_some found, done.1.symm,
        done.2.symm⟩
  | none =>
      rw [found, Work.set_bind_ok, Work.pure_ok] at done
      exact .inr ⟨by simpa using found, done.1.symm, done.2.symm⟩

theorem askReplay_cases
    (done : (askReplay connector trigger reason requestedBy requestedAt window).run store =
      .ok (queued, after)) :
    ∃ request minted,
      request = .pending (identifier (store.minted + 1)) connector trigger reason requestedBy
        requestedAt ∧ minted = { store with minted := store.minted + 1 } ∧
      store.connectorOutage = none ∧
        ((∃ existing ∈ store.replays, standsFor window request existing ∧
            queued = .deduplicated existing ∧ after = minted) ∨
          (∀ existing ∈ store.replays, standsFor window request existing = false) ∧
            queued = .enqueued request ∧ after = minted.withNewReplay request) := by
  rw [askReplay, Work.bind_ok] at done
  obtain ⟨id, minted, given, done⟩ := done
  obtain ⟨rfl, rfl⟩ := mint_ok.mp given
  exact ⟨_, _, rfl, rfl, enqueueReplay_cases done⟩

/-- Requests are queued as long as the queue can be reached. -/
theorem enqueueReplay_exists (available : store.connectorOutage = none) (request : ReplayRequest)
    (window : Duration) :
    ∃ queued after, (enqueueReplay request window).run store = .ok (queued, after) := by
  cases found : store.replays.find? (standsFor window request) with
  | some existing =>
      refine ⟨.deduplicated existing, store, Work.bind_ok.mpr
        ⟨(), store, reachConnectors_ok.mpr ⟨available, rfl⟩, ?_⟩⟩
      rw [Work.get_bind_ok, found, Work.pure_ok]
      exact ⟨rfl, rfl⟩
  | none =>
      refine ⟨.enqueued request, store.withNewReplay request, Work.bind_ok.mpr
        ⟨(), store, reachConnectors_ok.mpr ⟨available, rfl⟩, ?_⟩⟩
      rw [Work.get_bind_ok, found, Work.set_bind_ok, Work.pure_ok]
      exact ⟨rfl, rfl⟩

theorem askReplay_exists (available : store.connectorOutage = none) (connector : String)
    (trigger : ReplayTrigger) (reason requestedBy : Option String) (requestedAt : Instant)
    (window : Duration) :
    ∃ queued after, (askReplay connector trigger reason requestedBy requestedAt window).run store =
      .ok (queued, after) := by
  have reached : { store with minted := store.minted + 1 }.connectorOutage = none := available
  obtain ⟨queued, after, done⟩ := enqueueReplay_exists reached _ window
  exact ⟨queued, after, Work.bind_ok.mpr ⟨_, _, mint_ok.mpr ⟨rfl, rfl⟩, done⟩⟩

theorem askReplay_refused {problem : String} (outage : store.connectorOutage = some problem)
    (connector : String) (trigger : ReplayTrigger) (reason requestedBy : Option String)
    (requestedAt : Instant) (window : Duration) :
    (askReplay connector trigger reason requestedBy requestedAt window).run store =
      .error (.refused (.store (.storage problem))) := by
  simp only [askReplay, mint, enqueueReplay, reachConnectors, StateT.run_bind, StateT.run_get,
    StateT.run_set, StateT.run_pure, pure_bind, outage]
  rfl

/-- A request for which none stood in lies apart from all that were queued before. -/
theorem apart_of_not_standsFor {earlier : ReplayRequest × Duration}
    (missing : standsFor window request earlier.1 = false) : Apart earlier (request, window) := by
  intro isOpen _ connector trigger
  have late : earlier.1.requestedAt < request.requestedAt.before window := by
    simpa [standsFor, isOpen, connector, trigger] using missing
  exact ⟨late, fun bounded => (Instant.lt_before_iff bounded window).mp late⟩

/-- What a worker of a connector is given: the first of the earliest requests that wait for it, or
nothing if none waits. -/
structure ClaimAnswer (store : Store) (connector : String) (now : Instant)
    (answer : Option ReplayRequest) (after : Store) : Prop where
  nothing : answer = none ↔ ∀ request ∈ store.replays, ¬request.Waits connector
  given : ∀ claimed ∈ answer, ∃ earlier request later,
    store.replays = earlier ++ request :: later ∧ request.Waits connector ∧
      claimed = request.claimedAt now ∧
      (∀ other ∈ earlier, other.Waits connector → request.requestedAt < other.requestedAt) ∧
      (∀ other ∈ later, other.Waits connector → request.requestedAt ≤ other.requestedAt) ∧
      after.replays = earlier ++ claimed :: later
  others : after = { store with replays := after.replays }
  unclaimed : answer = none → after = store

/-- The rows that wait for a worker of the connector. -/
def waiting (store : Store) (connector : String) : List ReplayRequest :=
  store.replays.filter fun request =>
    request.connector == connector && request.status == .pending

theorem mem_waiting : request ∈ store.waiting connector ↔
    request ∈ store.replays ∧ request.Waits connector := by
  simp [waiting, Waits]

/-- What a claim gives and leaves. -/
def claimed (store : Store) (connector : String) (now : Instant) : Option ReplayRequest × Store :=
  match earliest? (store.waiting connector) with
  | none => (none, store)
  | some request => (some (request.claimedAt now), store.withReplay (request.claimedAt now))

theorem claimReplay_ok : (claimReplay connector now).run store = .ok (answer, after) ↔
    store.connectorOutage = none ∧ store.claimed connector now = (answer, after) := by
  have rest : StateT.run (match earliest? (store.waiting connector) with
      | none => (return none : Work (Option ReplayRequest))
      | some request => do
        set (store.withReplay (request.claimedAt now))
        return some (request.claimedAt now)) store = .ok (store.claimed connector now) := by
    rw [claimed]
    cases earliest? (store.waiting connector) with
    | none => rfl
    | some request => rfl
  rw [claimReplay, Work.bind_ok]
  constructor
  · rintro ⟨_, _, reached, done⟩
    obtain ⟨available, rfl⟩ := reachConnectors_ok.mp reached
    exact ⟨available, Except.ok.inj (rest.symm.trans done)⟩
  · rintro ⟨available, given⟩
    exact ⟨(), store, reachConnectors_ok.mpr ⟨available, rfl⟩,
      rest.trans (congrArg Except.ok given)⟩

/-- The earliest of the waiting requests stands somewhere in the queue. -/
theorem earliest?_waiting (first : earliest? (store.waiting connector) = some request) :
    ∃ earlier later, store.replays = earlier ++ request :: later ∧ request.Waits connector ∧
      (∀ other ∈ earlier, other.Waits connector → request.requestedAt < other.requestedAt) ∧
      ∀ other ∈ later, other.Waits connector → request.requestedAt ≤ other.requestedAt := by
  obtain ⟨before, after, split, sooner, least⟩ := earliest?_split first
  obtain ⟨earlier, later, whole, selected, rfl, rfl⟩ := split_of_filter split
  have waits : request.Waits connector := by simpa [Waits] using selected
  refine ⟨earlier, later, whole, waits, fun other member waits => ?_, fun other member waits => ?_⟩
  · exact sooner other (List.mem_filter.mpr ⟨member, by simpa [Waits] using waits⟩)
  · exact least other (List.mem_filter.mpr ⟨member, by simpa [Waits] using waits⟩)

theorem claimed_answer (unique : (store.replays.map (·.id)).Nodup) (connector : String)
    (now : Instant) : store.ClaimAnswer connector now (store.claimed connector now).1
      (store.claimed connector now).2 := by
  rw [claimed]
  cases first : earliest? (store.waiting connector) with
  | none =>
      have nobody := earliest?_eq_none.mp first
      refine ⟨?_, by simp, rfl, fun _ => rfl⟩
      simp only [true_iff]
      intro request member waits
      exact List.not_mem_nil (nobody ▸ mem_waiting.mpr ⟨member, waits⟩)
  | some request =>
      obtain ⟨earlier, later, whole, waits, sooner, least⟩ := earliest?_waiting first
      refine ⟨?_, ?_, rfl, by simp⟩
      · simp only [reduceCtorEq, false_iff, not_forall, not_not]
        exact ⟨request, by simp [whole], waits⟩
      · intro claimed same
        obtain rfl := Option.mem_some.mp same
        refine ⟨earlier, request, later, whole, waits, rfl, sooner, least, ?_⟩
        rw [whole] at unique
        change putReplay (request.claimedAt now) store.replays = _
        rw [whole]
        exact putReplay_split unique rfl

/-- Completing a request rewrites its row. -/
theorem completeReplay_cases {u : Unit}
    (done : (completeReplay id status error now).run store = .ok (u, after)) :
    ∃ request ∈ store.replays, request.id = id ∧
      after = store.withReplay { request with status, completedAt := some now, error } := by
  rw [completeReplay, Work.get_bind_ok] at done
  cases found : store.replay? id with
  | none => simp only [found, Work.failing_ok, refuse_ok_iff, false_and] at done
  | some request =>
      rw [found, Work.set_ok] at done
      exact ⟨request, List.mem_of_find?_eq_some found, by simpa using List.find?_some found,
        done.symm⟩

end Store

end SpotSettlement
