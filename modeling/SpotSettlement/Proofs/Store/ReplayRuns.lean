import SpotSettlement.Proofs.Store.Replays

namespace SpotSettlement

/-! # Runs of the replay queue

Requests are asked for, claimed and completed in any order, and anything else that leaves them alone
may come of the store in between.  What was queued and what was claimed is remembered beside the
store, to say of the queue what has become of both.
-/

open ReplayRequest (Apart)

inductive ReplayEvent where
  /-- Someone asks for a replay. -/
  | ask (connector : String) (trigger : ReplayTrigger) (reason requestedBy : Option String)
      (requestedAt : Instant) (window : Duration)
  /-- A worker of a connector claims a request. -/
  | claim (connector : String) (now : Instant)
  /-- A worker completes a request. -/
  | complete (id : String) (status : ReplayStatus) (error : Option String) (now : Instant)
  /-- Something else becomes of the store. -/
  | besides (other : Store)

/-- The store, the requests that were queued, each with the window that it was queued under, and the
requests that workers were given. -/
structure ReplayRun where
  store : Store := {}
  queued : List (ReplayRequest × Duration) := []
  claimed : List ReplayRequest := []

namespace ReplayRun

/-- Workers complete what a claim gave them, as succeeded or failed.  Whatever else happens leaves
the requests alone and never takes back an identifier. -/
def step (run : ReplayRun) : ReplayEvent → ReplayRun
  | .ask connector trigger reason requestedBy requestedAt window =>
    match run.store.perform
        (Store.askReplay connector trigger reason requestedBy requestedAt window) with
    | (.ok (.enqueued request), store) =>
      { run with store, queued := run.queued ++ [(request, window)] }
    | (_, store) => { run with store }
  | .claim connector now =>
    match run.store.perform (Store.claimReplay connector now) with
    | (.ok (some request), store) => { run with store, claimed := run.claimed ++ [request] }
    | (_, store) => { run with store }
  | .complete id status error now =>
    if id ∈ run.claimed.map (·.id) ∧ status.isOpen = false then
      { run with store := (run.store.perform (Store.completeReplay id status error now)).2 }
    else run
  | .besides other =>
    if other.replays = run.store.replays ∧ run.store.minted ≤ other.minted then
      { run with store := other }
    else run

def afterAll (run : ReplayRun) (events : List ReplayEvent) : ReplayRun := events.foldl step run

def reached (events : List ReplayEvent) : ReplayRun := ({} : ReplayRun).afterAll events

theorem afterAll_append (run : ReplayRun) (first second : List ReplayEvent) :
    run.afterAll (first ++ second) = (run.afterAll first).afterAll second :=
  List.foldl_append

theorem step_ask {connector : String} {trigger : ReplayTrigger}
    {reason requestedBy : Option String} {requestedAt : Instant} {window : Duration}
    {queued : ReplayEnqueued} (run : ReplayRun) {after : Store}
    (done : (Store.askReplay connector trigger reason requestedBy requestedAt window).run run.store =
      .ok (queued, after)) :
    (run.step (.ask connector trigger reason requestedBy requestedAt window)).store = after := by
  rw [step, Store.perform_ok_iff.mpr done]
  cases queued <;> rfl

theorem step_claim {connector : String} {now : Instant} {answer : Option ReplayRequest}
    (run : ReplayRun) {after : Store}
    (done : (Store.claimReplay connector now).run run.store = .ok (answer, after)) :
    run.step (.claim connector now) =
      { run with store := after, claimed := run.claimed ++ answer.toList } := by
  rw [step, Store.perform_ok_iff.mpr done]
  cases answer with
  | none => exact congrArg (mk _ _) (List.append_nil _).symm
  | some request => rfl

theorem step_complete (run : ReplayRun) {id : String} {status : ReplayStatus}
    (error : Option String) (now : Instant)
    (given : id ∈ run.claimed.map (·.id)) (closing : status.isOpen = false) :
    run.step (.complete id status error now) = { run with
      store := (run.store.perform (Store.completeReplay id status error now)).2 } :=
  if_pos ⟨given, closing⟩

/-- What holds of the queue at any time. -/
structure Orderly (run : ReplayRun) : Prop where
  issued : run.store.Issued (run.store.replays.map (·.id))
  /-- The rows are those that were queued, in this order. -/
  rows : run.store.replays.map (·.asQueued) = run.queued.map Prod.fst
  timed : ∀ request ∈ run.store.replays, request.Timed
  apart : (run.store.replays.zip (run.queued.map Prod.snd)).Pairwise Apart
  /-- What was given to a worker does not wait any more. -/
  taken : ∀ claimed ∈ run.claimed, ∃ request ∈ run.store.replays,
    request.id = claimed.id ∧ request.status ≠ .pending
  distinct : (run.claimed.map (·.id)).Nodup

namespace Orderly

variable {run : ReplayRun} {request changed : ReplayRequest} {window : Duration} {other : Store}

theorem length_eq (orderly : run.Orderly) :
    run.store.replays.length = (run.queued.map Prod.snd).length := by
  simpa using congrArg List.length orderly.rows

theorem besides (orderly : run.Orderly) (kept : other.replays = run.store.replays)
    (later : run.store.minted ≤ other.minted) : Orderly { run with store := other } where
  issued := by
    rw [kept]
    exact orderly.issued.mono later
  rows := kept ▸ orderly.rows
  timed := by
    rw [kept]
    exact orderly.timed
  apart := by
    rw [kept]
    exact orderly.apart
  taken := by
    rw [kept]
    exact orderly.taken
  distinct := orderly.distinct

/-- A new request that waits comes in behind the others, under the next identifier, if no open one
stands in for it. -/
theorem queue (orderly : run.Orderly)
    (next : request.id = Store.identifier (run.store.minted + 1))
    (fresh : request.asQueued = request) (timed : request.Timed)
    (missing : ∀ existing ∈ run.store.replays,
      Store.standsFor window request existing = false) :
    Orderly { run with
      store := ({ run.store with minted := run.store.minted + 1 }).withNewReplay request
      queued := run.queued ++ [(request, window)] } where
  issued := by
    change Store.Issued _ ((run.store.replays ++ [request]).map (·.id))
    rw [List.map_append, List.map_singleton, next]
    exact orderly.issued.append (Nat.lt_succ_self _) (Nat.le_refl _)
  rows := by
    change (run.store.replays ++ [request]).map (·.asQueued) = _
    rw [List.map_append, List.map_append, orderly.rows, List.map_singleton, fresh,
      List.map_singleton]
  timed := by
    intro row member
    obtain earlier | here := List.mem_append.mp member
    · exact orderly.timed row earlier
    · exact List.mem_singleton.mp here ▸ timed
  apart := by
    change ((run.store.replays ++ [request]).zip _).Pairwise Apart
    rw [List.map_append, List.map_singleton, List.zip_append orderly.length_eq,
      List.pairwise_append]
    refine ⟨orderly.apart, List.pairwise_singleton _ _, ?_⟩
    intro earlier member later here
    obtain rfl := List.mem_singleton.mp here
    exact Store.apart_of_not_standsFor (missing earlier.1 (List.of_mem_zip member).1)
  taken := by
    intro claimed member
    obtain ⟨row, present, same, status⟩ := orderly.taken claimed member
    exact ⟨row, List.mem_append_left _ present, same, status⟩
  distinct := orderly.distinct

/-- The row of a request is rewritten to one that was queued as it was and does not wait, nor is it
open if the request was not. -/
theorem rewrite (orderly : run.Orderly) (member : request ∈ run.store.replays)
    (same : changed.asQueued = request.asQueued) (timed : changed.Timed)
    (taken : changed.status ≠ .pending)
    (opens : changed.status.isOpen = true → request.status.isOpen = true) :
    Orderly { run with store := run.store.withReplay changed } := by
  have unique := orderly.issued.1
  have rewrites := Store.rewritten_cases unique member same
  have rows : (run.store.withReplay changed).replays =
      run.store.replays.map (Store.rewritten changed) := Store.putReplay_eq_map unique
  have asQueued : ∀ row ∈ run.store.replays,
      (Store.rewritten changed row).asQueued = row.asQueued := by
    intro row present
    obtain kept | ⟨rfl, rewritten⟩ := rewrites row present
    · rw [kept]
    · rw [rewritten, same]
  have staysClosed : ∀ row ∈ run.store.replays,
      (Store.rewritten changed row).status.isOpen = true → row.status.isOpen = true := by
    intro row present
    obtain kept | ⟨rfl, rewritten⟩ := rewrites row present
    · rw [kept]
      exact id
    · rw [rewritten]
      exact opens
  refine ⟨?_, ?_, ?_, ?_, ?_, orderly.distinct⟩
  · have ids : (run.store.withReplay changed).replays.map (·.id) =
        run.store.replays.map (·.id) := by
      rw [rows, List.map_map]
      exact List.map_congr_left fun row present =>
        ReplayRequest.id_of_asQueued (asQueued row present)
    dsimp only
    rw [ids]
    exact orderly.issued.mono (Nat.le_refl _)
  · dsimp only
    rw [rows, List.map_map, ← orderly.rows]
    exact List.map_congr_left asQueued
  · intro row present
    rw [rows] at present
    obtain ⟨old, stood, rfl⟩ := List.mem_map.mp present
    obtain kept | ⟨-, rewritten⟩ := rewrites old stood
    · exact kept.symm ▸ orderly.timed old stood
    · exact rewritten.symm ▸ timed
  · dsimp only
    rw [rows, List.zip_map_left, List.pairwise_map]
    refine orderly.apart.imp_of_mem fun {earlier later} first second apart => ?_
    obtain ⟨first, -⟩ := List.of_mem_zip first
    obtain ⟨second, -⟩ := List.of_mem_zip second
    exact apart.mono (asQueued _ first) (asQueued _ second) (staysClosed _ first)
      (staysClosed _ second)
  · intro claimed given
    obtain ⟨row, present, same, waits⟩ := orderly.taken claimed given
    refine ⟨Store.rewritten changed row, rows ▸ List.mem_map_of_mem present,
      (ReplayRequest.id_of_asQueued (asQueued row present)).trans same, ?_⟩
    obtain kept | ⟨-, rewritten⟩ := rewrites row present
    · exact kept.symm ▸ waits
    · exact rewritten.symm ▸ taken

/-- A request that waits is given to a worker, which no other worker was given. -/
theorem claim (orderly : run.Orderly) {now : Instant} {connector : String}
    (member : request ∈ run.store.replays) (waits : request.Waits connector) :
    Orderly { run with
      store := run.store.withReplay (request.claimedAt now)
      claimed := run.claimed ++ [request.claimedAt now] } := by
  have rewritten : Orderly { run with store := run.store.withReplay (request.claimedAt now) } :=
    orderly.rewrite member rfl
      (ReplayRequest.timed_claimedAt (orderly.timed request member) waits.2) nofun
      fun _ => congrArg ReplayStatus.isOpen waits.2
  refine { rewritten with taken := ?_, distinct := ?_ }
  · intro claimed given
    obtain earlier | here := List.mem_append.mp given
    · exact rewritten.taken claimed earlier
    · obtain rfl := List.mem_singleton.mp here
      exact ⟨_, Store.mem_withReplay orderly.issued.1 member rfl, rfl, nofun⟩
  · rw [List.map_append, List.map_singleton, List.nodup_append]
    refine ⟨orderly.distinct, List.nodup_singleton _, ?_⟩
    intro earlier given later here equal
    -- What was given before does not wait, but this request does.
    obtain ⟨claimed, earlier, rfl⟩ := List.mem_map.mp given
    obtain ⟨row, present, same, taken⟩ := orderly.taken claimed earlier
    have which : row = request := List.inj_on_of_nodup_map orderly.issued.1 present member
      (same.trans (equal.trans (List.mem_singleton.mp here)))
    exact taken (which ▸ waits.2)

theorem complete (orderly : run.Orderly) {id : String} {status : ReplayStatus}
    {error : Option String} {now : Instant} (given : id ∈ run.claimed.map (·.id))
    (closing : status.isOpen = false) (member : request ∈ run.store.replays)
    (named : request.id = id) :
    Orderly { run with
      store := run.store.withReplay { request with status, completedAt := some now, error } } := by
  obtain ⟨claimed, earlier, rfl⟩ := List.mem_map.mp given
  obtain ⟨row, present, same, taken⟩ := orderly.taken claimed earlier
  have which : row = request :=
    List.inj_on_of_nodup_map orderly.issued.1 present member (same.trans named.symm)
  subst which
  refine orderly.rewrite member rfl
    (ReplayRequest.timed_completed error (orderly.timed row member) taken closing) ?_ ?_
  · rintro rfl
    contradiction
  · intro opened
    exact absurd (closing.symm.trans opened) Bool.false_ne_true

theorem step (orderly : run.Orderly) (event : ReplayEvent) : (run.step event).Orderly := by
  cases event with
  | ask connector trigger reason requestedBy requestedAt window =>
      rw [ReplayRun.step]
      cases outcome : run.store.perform
          (Store.askReplay connector trigger reason requestedBy requestedAt window) with
      | mk result after =>
          cases result with
          | error failure =>
              obtain rfl := Store.perform_failed outcome
              exact orderly
          | ok answer =>
              obtain ⟨_, _, rfl, rfl, -, ⟨existing, -, -, rfl, rfl⟩ | ⟨missing, rfl, rfl⟩⟩ :=
                Store.askReplay_cases (Store.perform_ok_iff.mp outcome)
              · exact orderly.besides rfl (Nat.le_succ run.store.minted)
              · exact orderly.queue rfl rfl (And.intro rfl rfl) missing
  | claim connector now =>
      rw [ReplayRun.step]
      cases outcome : run.store.perform (Store.claimReplay connector now) with
      | mk result after =>
          cases result with
          | error failure =>
              obtain rfl := Store.perform_failed outcome
              exact orderly
          | ok answer =>
              obtain ⟨-, given⟩ := Store.claimReplay_ok.mp (Store.perform_ok_iff.mp outcome)
              rw [Store.claimed] at given
              cases first : Store.earliest? (run.store.waiting connector) with
              | none =>
                  rw [first] at given
                  obtain ⟨rfl, rfl⟩ := Prod.mk.inj given
                  exact orderly
              | some request =>
                  rw [first] at given
                  obtain ⟨rfl, rfl⟩ := Prod.mk.inj given
                  obtain ⟨member, waits⟩ := Store.mem_waiting.mp (Store.earliest?_mem first)
                  exact orderly.claim member waits
  | complete id status error now =>
      rw [ReplayRun.step]
      split
      · next enabled =>
          cases outcome : run.store.perform (Store.completeReplay id status error now) with
          | mk result after =>
              cases result with
              | error failure =>
                  obtain rfl := Store.perform_failed outcome
                  exact orderly
              | ok =>
                  obtain ⟨request, member, named, rfl⟩ :=
                    Store.completeReplay_cases (Store.perform_ok_iff.mp outcome)
                  exact orderly.complete enabled.1 enabled.2 member named
      · exact orderly
  | besides other =>
      rw [ReplayRun.step]
      split
      · next kept => exact orderly.besides kept.1 kept.2
      · exact orderly

end Orderly

theorem afterAll_orderly {run : ReplayRun} (orderly : run.Orderly) (events : List ReplayEvent) :
    (run.afterAll events).Orderly := by
  induction events generalizing run with
  | nil => exact orderly
  | cons event rest ih => exact ih (orderly.step event)

theorem queued_prefix_step (run : ReplayRun) (event : ReplayEvent) :
    run.queued <+: (run.step event).queued := by
  cases event with
  | ask connector trigger reason requestedBy requestedAt window =>
      rw [step]
      split
      · exact List.prefix_append _ _
      · exact List.prefix_rfl
  | claim connector now =>
      rw [step]
      split <;> exact List.prefix_rfl
  | complete id status error now =>
      rw [step]
      split <;> exact List.prefix_rfl
  | besides other =>
      rw [step]
      split <;> exact List.prefix_rfl

theorem queued_prefix (run : ReplayRun) (events : List ReplayEvent) :
    run.queued <+: (run.afterAll events).queued := by
  induction events generalizing run with
  | nil => exact List.prefix_rfl
  | cons event rest ih => exact (run.queued_prefix_step event).trans (ih (run.step event))

theorem orderly_empty : Orderly {} where
  issued := ⟨List.nodup_nil, List.forall_mem_nil _⟩
  rows := rfl
  timed := List.forall_mem_nil _
  apart := .nil
  taken := List.forall_mem_nil _
  distinct := List.nodup_nil

theorem reached_orderly (events : List ReplayEvent) : (reached events).Orderly :=
  afterAll_orderly orderly_empty events

theorem Orderly.ids {run : ReplayRun} (orderly : run.Orderly) :
    run.store.replays.map (·.id) = run.queued.map (·.1.id) := by
  have ids := congrArg (List.map (·.id)) orderly.rows
  rwa [List.map_map, List.map_map] at ids

/-- Along every run of the queue no request is claimed twice, the moments of a request are those of
its status, a worker is given the earliest request that waits for it, no request is removed, and
open requests of one kind are further apart than the window of the later one. -/
theorem queue_is_disciplined (events : List ReplayEvent) :
    let run := reached events
    (run.claimed.map (·.id)).Nodup ∧
      (∀ request ∈ run.store.replays, request.Timed) ∧
      (run.store.connectorOutage = none → ∀ connector now, ∃ answer after,
        run.store.perform (Store.claimReplay connector now) = (.ok answer, after) ∧
          run.store.ClaimAnswer connector now answer after) ∧
      run.store.replays.map (·.asQueued) = run.queued.map Prod.fst ∧
      (∀ later, run.store.replays.map (·.id) <+:
        (reached (events ++ later)).store.replays.map (·.id)) ∧
      (run.store.replays.zip (run.queued.map Prod.snd)).Pairwise Apart := by
  intro run
  have orderly : run.Orderly := reached_orderly events
  refine ⟨orderly.distinct, orderly.timed, ?_, orderly.rows, ?_, orderly.apart⟩
  · intro available connector now
    refine ⟨_, _, Store.perform_ok_iff.mpr (Store.claimReplay_ok.mpr ⟨available, rfl⟩), ?_⟩
    exact Store.claimed_answer orderly.issued.1 connector now
  · intro later
    rw [orderly.ids, (reached_orderly (events ++ later)).ids, reached, afterAll_append]
    exact (run.queued_prefix later).map _

end ReplayRun

end SpotSettlement
