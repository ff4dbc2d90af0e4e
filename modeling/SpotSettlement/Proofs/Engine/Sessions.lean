import SpotSettlement.Proofs.Engine.Replays
import SpotSettlement.Proofs.Engine.StreamTurns
import SpotSettlement.Proofs.Settlement.Numbering

namespace SpotSettlement

/-! # A session as plain ingestion

To read a session is to ingest its reports one after the other, up to the first error that ends it.
The requests for replays that come between make no difference, except that they use up identifiers.
-/

/-- What comes of a reading that is ingested by itself. -/
inductive Ingestion where
  | fill (outcome : IngestOutcome)
  | status (outcome : ReconcileOutcome)
  /-- The report is refused. -/
  | refused (cause : SettlementError)
  /-- A number does not fit. -/
  | overflow (operation : Decimal.Overflow)
  | unreadable (error : StreamError)
  | ignored

namespace Ingestion

def ofResult {α : Type} (told : α → Ingestion) : Except Failure α → Ingestion
  | .ok value => told value
  | .error (.refused cause) => .refused cause
  | .error (.overflow operation) => .overflow operation

def isInserted : Ingestion → Bool
  | .fill (.inserted ..) => true
  | _ => false

def isDuplicate : Ingestion → Bool
  | .fill .duplicate => true
  | _ => false

def isUnmapped : Ingestion → Bool
  | .fill .unmapped => true
  | _ => false

/-- A report was refused, or the reading is none. -/
def isError : Ingestion → Bool
  | .refused _ | .unreadable _ => true
  | _ => false

def isOverflow : Ingestion → Bool
  | .overflow _ => true
  | _ => false

/-- How a supervisor goes on. -/
def result : Ingestion → Except Interruption Unit
  | .overflow operation => .error (.overflow operation)
  | _ => .ok ()

theorem ofResult_overflow {α : Type} {told : α → Ingestion} {operation : Decimal.Overflow}
    (never : ∀ value, told value ≠ .overflow operation) {outcome : Except Failure α}
    (given : ofResult told outcome = .overflow operation) :
    outcome = .error (.overflow operation) := by
  cases outcome with
  | ok value => exact absurd given (never value)
  | error failure =>
      cases failure with
      | refused => cases given
      | overflow =>
          cases given
          rfl

end Ingestion

namespace Terms

variable (terms : Terms) (now : Instant)

/-- Ingests a reading by itself.  One that is not a report is skipped. -/
def ingest (store : Store) : StreamReading → Ingestion × Store
  | .ok (.execution report) =>
    let (result, after) := store.perform (terms.processFill report now)
    (.ofResult .fill result, after)
  | .ok (.status report) =>
    let (result, after) := store.perform (terms.processStatus report now)
    (.ofResult .status result, after)
  | .ok .ignored => (.ignored, store)
  | .error error => (.unreadable error, store)

def ingestAll (store : Store) : List StreamReading → List Ingestion × Store
  | [] => ([], store)
  | reading :: rest =>
    let (came, next) := terms.ingest now store reading
    let (later, last) := ingestAll next rest
    (came :: later, last)

variable {terms now}

theorem ingest_overflow {store : Store} {reading : StreamReading} {operation : Decimal.Overflow}
    (overflow : (terms.ingest now store reading).1 = .overflow operation) :
    (terms.ingest now store reading).2 = store := by
  cases reading with
  | error => rfl
  | ok event =>
      cases event with
      | ignored => rfl
      | execution => exact Store.perform_error (Ingestion.ofResult_overflow nofun overflow)
      | status => exact Store.perform_error (Ingestion.ofResult_overflow nofun overflow)

end Terms

namespace StreamCounters

/-- The counters have grown by what came of some readings. -/
structure GrownBy (counters : StreamCounters) (came : List Ingestion) (after : StreamCounters) :
    Prop where
  inserted : after.inserted = counters.inserted + came.countP (·.isInserted)
  duplicate : after.duplicate = counters.duplicate + came.countP (·.isDuplicate)
  unmapped : after.unmapped = counters.unmapped + came.countP (·.isUnmapped)
  errors : after.errors = counters.errors + came.countP (·.isError)

variable {counters middle after : StreamCounters} {came later : List Ingestion}

theorem GrownBy.refl (counters : StreamCounters) : counters.GrownBy [] counters :=
  ⟨rfl, rfl, rfl, rfl⟩

theorem GrownBy.trans (first : counters.GrownBy came middle) (second : middle.GrownBy later after) :
    counters.GrownBy (came ++ later) after where
  inserted := by rw [second.inserted, first.inserted, List.countP_append, Nat.add_assoc]
  duplicate := by rw [second.duplicate, first.duplicate, List.countP_append, Nat.add_assoc]
  unmapped := by rw [second.unmapped, first.unmapped, List.countP_append, Nat.add_assoc]
  errors := by rw [second.errors, first.errors, List.countP_append, Nat.add_assoc]

end StreamCounters

open Activity

/-- A unit of work that does not depend on names ends as the same work does by itself. -/
theorem Engine.perform_ensures_matched {α β : Type} {related : Naming → α → β → Prop}
    {work : Work α} {other : Work β} {engine : Engine} {naming : Naming} {plain : Store}
    {post : Except Interruption (Except SettlementError α) → Engine → Prop}
    (same : engine.store.Renumbered naming plain)
    (matched : Work.Matches naming related work other)
    (done : ∀ more value image after next, related more value image →
      after.Renumbered more next → plain.perform other = (.ok image, next) →
        post (.ok (.ok value)) { engine with store := after })
    (refused : ∀ cause counted, plain.perform other = (.error (.refused counted), plain) →
      post (.ok (.error cause)) engine)
    (overflow : ∀ operation, plain.perform other = (.error (.overflow operation), plain) →
      post (.error (.overflow operation)) engine) :
    (perform work).Ensures engine post := by
  obtain ⟨more, -, alike, still⟩ := same.perform matched
  generalize ended : plain.perform other = image at alike still
  obtain ⟨result, next⟩ := image
  refine perform_ensures ?_ ?_ ?_
  · intro value after finished
    rw [finished] at alike still
    cases alike with
    | ok holds => exact done more value _ after next holds still ended
  · intro cause finished
    rw [finished] at alike
    cases alike with
    | refused _ counted => exact refused cause counted (Store.perform_failed ended ▸ ended)
  · intro operation finished
    rw [finished] at alike
    cases alike with
    | overflow => exact overflow operation (Store.perform_failed ended ▸ ended)

namespace Setup

variable {setup : Setup} {now : Instant} {engine : Engine} {naming : Naming} {plain : Store}

/-- The activity did what plain ingestion does, and counted it. -/
structure Ingests (engine : Engine) (came : Ingestion) (next : Store)
    (result : Except Interruption Unit) (after : Engine) : Prop where
  result : result = came.result
  store : ∃ naming, after.store.Renumbered naming next
  counters : engine.health.stream.GrownBy [came] after.health.stream

/-- To ask for a replay uses up an identifier, and makes no other difference to ingestion. -/
theorem requestRecovery_renumbered (same : engine.store.Renumbered naming plain) (reason : String) :
    (setup.requestRecovery reason now).Ensures engine fun result after =>
      result = .ok () ∧ after.store.Renumbered naming plain ∧ after.health = engine.health := by
  refine ensures_bind (Engine.enqueueReplay_ensures (fun queued store done => ?_) fun _ _ => ?_)
  · obtain ⟨_, _, rfl, rfl, -, ⟨_, -, -, -, rfl⟩ | ⟨-, -, rfl⟩⟩ := Store.askReplay_cases done
    · exact ⟨rfl, { same with issued := same.issued.mono (Nat.le_succ _) }, rfl⟩
    · exact ⟨rfl, { same with issued := same.issued.mono (Nat.le_succ _) }, rfl⟩
  · exact ⟨rfl, same, rfl⟩

theorem countApplyError_ingests (same : engine.store.Renumbered naming plain)
    (cause counted : SettlementError) :
    (countApplyError cause now).Ensures engine (Ingests engine (.refused counted) plain) :=
  Engine.updateHealth_ensures fun _ => ⟨rfl, ⟨naming, { same with }⟩, ⟨rfl, rfl, rfl, rfl⟩⟩

theorem streamFill_ingests (same : engine.store.Renumbered naming plain)
    (report : ExecutionReport) :
    let plainly := setup.terms.ingest now plain (.ok (.execution report))
    (setup.streamFill report now).Ensures engine (Ingests engine plainly.1 plainly.2) := by
  dsimp only [Terms.ingest]
  refine ensures_bind (Engine.perform_ensures_matched same
    (setup.terms.processFill_matches report now) ?_ ?_ ?_)
  · intro more outcome image after next renamed still done
    rw [done]
    refine ensures_bind (Engine.updateHealth_ensures fun rows => ?_)
    have counted : engine.health.stream.GrownBy [.fill image]
        (engine.health.recordStreamOutcome outcome now).stream := by
      cases renamed <;> exact ⟨rfl, rfl, rfl, rfl⟩
    dsimp only
    split
    · have asked : { after with health := rows }.Renumbered more next := { still with }
      refine (requestRecovery_renumbered asked _).mono ?_
      rintro result later ⟨goesOn, kept, health⟩
      exact ⟨goesOn, ⟨more, kept⟩, health ▸ counted⟩
    · exact ⟨rfl, ⟨more, { still with }⟩, counted⟩
  · intro cause counted refused
    rw [refused]
    exact countApplyError_ingests same cause counted
  · intro operation overflow
    rw [overflow]
    exact ⟨rfl, ⟨naming, same⟩, ⟨rfl, rfl, rfl, rfl⟩⟩

theorem streamStatus_ingests (same : engine.store.Renumbered naming plain) (report : StatusReport) :
    let plainly := setup.terms.ingest now plain (.ok (.status report))
    (setup.streamStatus report now).Ensures engine (Ingests engine plainly.1 plainly.2) := by
  dsimp only [Terms.ingest]
  refine ensures_bind (Engine.perform_ensures_matched same
    (setup.terms.processStatus_unseeing report now naming) ?_ ?_ ?_)
  · intro more outcome image after next _ still done
    rw [done]
    exact ⟨rfl, ⟨more, still⟩, ⟨rfl, rfl, rfl, rfl⟩⟩
  · intro cause counted refused
    rw [refused]
    exact countApplyError_ingests same cause counted
  · intro operation overflow
    rw [overflow]
    exact ⟨rfl, ⟨naming, same⟩, ⟨rfl, rfl, rfl, rfl⟩⟩

/-- To take a reading is to ingest it, and to count what came of it. -/
theorem take_ingests (same : engine.store.Renumbered naming plain) (reading : StreamReading) :
    let plainly := setup.terms.ingest now plain reading
    (setup.take now reading).Ensures engine (Ingests engine plainly.1 plainly.2) := by
  cases reading with
  | error error =>
      rw [take]
      exact Engine.updateHealth_ensures fun _ =>
        ⟨rfl, ⟨naming, { same with }⟩, ⟨rfl, rfl, rfl, rfl⟩⟩
  | ok event =>
      cases event with
      | ignored => exact ⟨rfl, ⟨naming, same⟩, ⟨rfl, rfl, rfl, rfl⟩⟩
      | status report => exact streamStatus_ingests same report
      | execution report => exact streamFill_ingests same report

/-- Readings were taken as plain ingestion goes through them: all of them, which gives the value, or
those before the first whose numbers do not fit. -/
structure TakenPlainly {α : Type} (setup : Setup) (now : Instant) (plain : Store)
    (counters : StreamCounters) (value : α) (done rest : List StreamReading)
    (result : Except Interruption α) (after : Engine) : Prop where
  fits : ∀ came ∈ (setup.terms.ingestAll now plain done).1, came.isOverflow = false
  ends : rest = [] ∧ result = .ok value ∨
    ∃ reading later operation, rest = reading :: later ∧
      (setup.terms.ingest now (setup.terms.ingestAll now plain done).2 reading).1 =
        .overflow operation ∧
      result = .error (.overflow operation)
  store : ∃ naming : Naming, naming.OneToOne ∧
    after.store.Renumbered naming (setup.terms.ingestAll now plain done).2
  counters : counters.GrownBy (setup.terms.ingestAll now plain done).1 after.health.stream

theorem forM_take_plainly (same : engine.store.Renumbered naming plain)
    (readings : List StreamReading) :
    (readings.forM (setup.take now)).Ensures engine fun result after => ∃ done rest,
      readings = done ++ rest ∧
        setup.TakenPlainly now plain engine.health.stream () done rest result after := by
  rw [List.forM_eq_forM]
  induction readings generalizing engine naming plain with
  | nil =>
      refine ⟨[], [], rfl, ?_⟩
      exact ⟨List.forall_mem_nil _, .inl ⟨rfl, rfl⟩, ⟨naming, same.oneToOne, same⟩, .refl _⟩
  | cons reading rest ih =>
      rw [List.forM_cons]
      refine ensures_bind ((take_ingests same reading).mono ?_)
      rintro result middle ⟨rfl, ⟨more, still⟩, grown⟩
      cases came : (setup.terms.ingest now plain reading).1 with
      | overflow operation =>
          -- Here both stop, and what this reading would have done is undone on either side.
          rw [came] at grown
          rw [Terms.ingest_overflow came] at still
          refine ⟨[], reading :: rest, rfl, List.forall_mem_nil _, ?_,
            ⟨more, still.oneToOne, still⟩, ?_⟩
          · exact .inr ⟨reading, rest, operation, rfl, came, rfl⟩
          · exact ⟨grown.inserted, grown.duplicate, grown.unmapped, grown.errors⟩
      | fill | status | refused | unreadable | ignored =>
          have fine : (setup.terms.ingest now plain reading).1.isOverflow = false := by
            rw [came]
            rfl
          refine (ih still).mono ?_
          rintro result after ⟨done, later, rfl, plainly⟩
          refine ⟨reading :: done, later, rfl, ?_, plainly.ends, plainly.store, ?_⟩
          · exact List.forall_mem_cons.mpr ⟨fine, plainly.fits⟩
          · exact grown.trans plainly.counters

/-- To read a session is to ingest its readings one after the other, up to the first error that ends
it: the store comes out the same but for names that were handed out, and the counters of the stream
grow by what came of the readings.  Only a number that does not fit stops it before. -/
theorem consume_is_plain_ingestion (setup : Setup) (ending : SessionEnd) (now : Instant)
    (readings : List StreamReading) (engine : Engine) :
    let ended := (setup.consume ending now readings).run.run engine
    ∃ done rest, taken readings = done ++ rest ∧
      setup.TakenPlainly now engine.store engine.health.stream (outcomeOf ending readings) done rest
        ended.1 ended.2 := by
  have plainly : (setup.consume ending now readings).Ensures engine fun result after =>
      ∃ done rest, taken readings = done ++ rest ∧ setup.TakenPlainly now engine.store
        engine.health.stream (outcomeOf ending readings) done rest result after := by
    rw [consume_eq]
    refine ensures_bind ((forM_take_plainly (.refl engine.store) (taken readings)).mono ?_)
    rintro result after ⟨done, rest, split, plainly⟩
    rcases plainly.ends with ⟨through, rfl⟩ | ⟨reading, later, operation, left, overflow, rfl⟩
    · exact ⟨done, rest, split, plainly.fits, .inl ⟨through, rfl⟩, plainly.store, plainly.counters⟩
    · exact ⟨done, rest, split, plainly.fits, .inr ⟨reading, later, operation, left, overflow, rfl⟩,
        plainly.store, plainly.counters⟩
  exact plainly

end Setup

end SpotSettlement
