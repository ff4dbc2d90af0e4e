import SpotSettlement.Engine.Placement
import SpotSettlement.Proofs.Retry.Attempts
import SpotSettlement.Proofs.Work

namespace SpotSettlement

/-! # What activities ensure

An activity ends with a result or with an interruption, and leaves an engine either way.  What it
ensures of both is followed through its parts.
-/

/-- The activity ends in a result and an engine that are as asked for. -/
def Activity.Ensures {α : Type} (activity : Activity α) (engine : Engine)
    (post : Except Interruption α → Engine → Prop) : Prop :=
  post (activity.run.run engine).1 (activity.run.run engine).2

namespace Activity

variable {α β : Type} {engine : Engine} {x : Activity α} {f : α → Activity β}
  {post weaker : Except Interruption α → Engine → Prop}
  {final : Except Interruption β → Engine → Prop}

theorem Ensures.mono (ensures : x.Ensures engine post)
    (weaken : ∀ result after, post result after → weaker result after) :
    x.Ensures engine weaker :=
  weaken _ _ ensures

theorem Ensures.and {other : Except Interruption α → Engine → Prop}
    (first : x.Ensures engine post) (second : x.Ensures engine other) :
    x.Ensures engine fun result after => post result after ∧ other result after :=
  ⟨first, second⟩

theorem ensures_bind
    (first : x.Ensures engine fun result middle =>
      match result with
      | .ok a => (f a).Ensures middle final
      | .error stop => final (.error stop) middle) :
    (x >>= f).Ensures engine final := by
  unfold Ensures at *
  simp only [ExceptT.run_bind, StateT.run_bind]
  generalize x.run.run engine = outcome at *
  obtain ⟨_ | _, middle⟩ := outcome <;> exact first

theorem ensures_get_bind {f : Engine → Activity β} (rest : (f engine).Ensures engine final) :
    (get >>= f).Ensures engine final := rest

theorem ensures_modify {change : Engine → Engine}
    {post : Except Interruption PUnit → Engine → Prop} (holds : post (.ok ⟨⟩) (change engine)) :
    (modify change : Activity PUnit).Ensures engine post := holds

theorem ensures_set_bind {next : Engine} {f : PUnit → Activity β}
    (rest : (f ⟨⟩).Ensures next final) : (set next >>= f).Ensures engine final := rest

end Activity

open Activity

namespace Engine

variable {α : Type} {engine : Engine}

/-- A unit of work ends with its answer and the store that it leaves, or is interrupted by a number
that does not fit. -/
theorem perform_ensures {work : Work α}
    {post : Except Interruption (Except SettlementError α) → Engine → Prop}
    (done : ∀ value after, engine.store.perform work = (.ok value, after) →
      post (.ok (.ok value)) { engine with store := after })
    (refused : ∀ cause, engine.store.perform work = (.error (.refused cause), engine.store) →
      post (.ok (.error cause)) engine)
    (overflow : ∀ operation,
      engine.store.perform work = (.error (.overflow operation), engine.store) →
        post (.error (.overflow operation)) engine) :
    (perform work).Ensures engine post := by
  unfold perform
  refine ensures_get_bind ?_
  cases outcome : engine.store.perform work with
  | mk result after =>
      cases result with
      | ok value => exact done value after outcome
      | error failure =>
          -- Work that fails leaves the store as it was.
          obtain rfl : engine.store = after := by
            have kept := Store.perform_error (congrArg Prod.fst outcome)
            rwa [outcome, eq_comm] at kept
          cases failure with
          | refused cause => exact refused cause outcome
          | overflow operation => exact overflow operation outcome

theorem perform_ensures_done {work : Work α} {value : α} {after : Store}
    {post : Except Interruption (Except SettlementError α) → Engine → Prop}
    (done : engine.store.perform work = (.ok value, after))
    (holds : post (.ok (.ok value)) { engine with store := after }) :
    (perform work).Ensures engine post := by
  refine perform_ensures ?_ ?_ ?_
  · intro other later again
    obtain ⟨⟨⟩, rfl⟩ := Prod.mk.inj (done.symm.trans again)
    exact holds
  · intro cause refused
    exact absurd (Prod.mk.inj (done.symm.trans refused)).1 nofun
  · intro operation refused
    exact absurd (Prod.mk.inj (done.symm.trans refused)).1 nofun

theorem perform_ensures_refused {work : Work α} {cause : SettlementError}
    {post : Except Interruption (Except SettlementError α) → Engine → Prop}
    (refused : work.run engine.store = .error (.refused cause))
    (holds : post (.ok (.error cause)) engine) : (perform work).Ensures engine post := by
  have outcome : engine.store.perform work = (.error (.refused cause), engine.store) := by
    rw [Store.perform, refused]
  refine perform_ensures ?_ ?_ ?_
  · intro value after done
    exact absurd (Prod.mk.inj (outcome.symm.trans done)).1 nofun
  · intro other again
    cases (Prod.mk.inj (outcome.symm.trans again)).1
    exact holds
  · intro operation overflow
    exact absurd (Prod.mk.inj (outcome.symm.trans overflow)).1 nofun

def KeepsData (engine after : Engine) : Prop :=
  after.store = engine.store ∧ after.broker = engine.broker

/-- Waiting takes time, and ends the activity only if it is told to stop. -/
theorem wait_ensures (delay : Duration) : (wait delay).Ensures engine fun result after =>
    after = { engine with waited := after.waited } ∧
      ∀ stop, result = .error stop → engine.stopAt ≠ none := by
  unfold wait
  refine ensures_get_bind ?_
  cases engine.stopAt with
  | none => exact ⟨rfl, nofun⟩
  | some stop =>
      dsimp only
      split
      · exact ⟨rfl, fun _ _ => nofun⟩
      · exact ⟨rfl, nofun⟩

theorem wait_keepsData (delay : Duration) :
    (wait delay).Ensures engine fun _ after => engine.KeepsData after :=
  (wait_ensures delay).mono fun _ _ waited => by rw [waited.1]; exact ⟨rfl, rfl⟩

end Engine

namespace Setup

variable {α : Type}

/-- Asks a question, as a change of the talk alone. -/
def asking (call : ExchangeCall) (fits : ExchangeAnswer → Option α) :
    StateM ExchangeTalk (Except ExchangeError α) :=
  fun talk => talk.ask call fits

/-- Asks the exchange under the retry policy, as if waiting took no time. -/
def hear (setup : Setup) (call : ExchangeCall) (fits : ExchangeAnswer → Option α) :
    ExceptT ExchangeError (StateM ExchangeTalk) α :=
  .mk (setup.retry.execute (fun _ => pure ()) (asking call fits))

/-- The exchange is asked and answers as it is heard, or the activity is told to stop while it waits
to ask again.  Nothing but the talk and the time spent waiting changes. -/
structure Hears (engine : Engine) (heard : Except ExchangeError α × ExchangeTalk)
    (result : Except Interruption (Except ExchangeError α)) (after : Engine) : Prop where
  kept : after = { engine with talk := after.talk, waited := after.waited }
  answered : ∀ answer, result = .ok answer → heard = (answer, after.talk)
  stopped : ∀ stop, result = .error stop → engine.stopAt ≠ none

@[simp] theorem asking_run (call : ExchangeCall) (fits : ExchangeAnswer → Option α)
    (talk : ExchangeTalk) : (asking call fits).run talk = talk.ask call fits := rfl

theorem retrying_hears (call : ExchangeCall) (fits : ExchangeAnswer → Option α) (remaining : Nat)
    (backoff : Backoff) (first : Option ExchangeError) {engine : Engine} :
    (retrying Engine.wait (Engine.ask call fits) remaining backoff first).Ensures engine
      (Hears engine ((retrying (fun _ => pure ()) (asking call fits) remaining backoff first).run
        engine.talk)) := by
  induction remaining using Nat.strongRecOn generalizing engine backoff first with
  | ind remaining ih =>
      have asked : (Engine.ask call fits).Ensures engine fun result after =>
          result = .ok (engine.talk.ask call fits).1 ∧
            after = { engine with talk := (engine.talk.ask call fits).2 } := ⟨rfl, rfl⟩
      rw [retrying_run, asking_run, retrying]
      refine ensures_bind (asked.mono ?_)
      rintro _ _ ⟨rfl, rfl⟩
      generalize engine.talk.ask call fits = outcome
      obtain ⟨answer, talk⟩ := outcome
      have ends : ∀ answer : Except ExchangeError α, (pure answer : Activity _).Ensures
          { engine with talk } (Hears engine (answer, talk)) :=
        fun _ => ⟨rfl, fun _ same => by cases same; rfl, fun _ never => by cases never⟩
      cases answer with
      | ok value => exact ends _
      | error error =>
          dsimp only
          split
          · exact ends _
          · cases remaining with
            | zero => exact ends _
            | succ fewer =>
                dsimp only
                cases backoff.after error.retryAfter with
                | none => exact ends _
                | some next =>
                    refine ensures_bind ((Engine.wait_ensures next.1).mono ?_)
                    rintro result waited ⟨passed, stops⟩
                    generalize waited.waited = time at passed
                    subst passed
                    cases result with
                    | error stop =>
                        exact ⟨rfl, fun _ never => (by cases never), fun _ _ => stops stop rfl⟩
                    | ok =>
                        refine (ih fewer (Nat.lt_succ_self fewer) next.2 _).mono ?_
                        intro _ last hears
                        exact ⟨hears.kept, hears.answered, hears.stopped⟩

theorem ask_hears (setup : Setup) (call : ExchangeCall) (fits : ExchangeAnswer → Option α)
    {engine : Engine} : (setup.ask call fits).Ensures engine
      (Hears engine ((setup.hear call fits).run.run engine.talk)) :=
  retrying_hears call fits _ _ _

/-- However often a question is put to the exchange, neither the store nor the broker changes. -/
theorem ask_keepsData (setup : Setup) (call : ExchangeCall) (fits : ExchangeAnswer → Option α)
    {engine : Engine} :
    (setup.ask call fits).Ensures engine fun _ after => engine.KeepsData after := by
  refine (setup.ask_hears call fits).mono fun _ after hears => ?_
  rw [hears.kept]
  exact ⟨rfl, rfl⟩

end Setup

variable {α : Type} {call : ExchangeCall} {fits : ExchangeAnswer → Option α}

namespace ExchangeTalk

/-- The talk once a question has been put so many times. -/
def asked (talk : ExchangeTalk) (count : Nat) (call : ExchangeCall) : ExchangeTalk :=
  { talk with
    answers := talk.answers.drop count
    calls := talk.calls ++ List.replicate count call }

/-- What each of the answers that are to come says to a question. -/
def reply (talk : ExchangeTalk) (fits : ExchangeAnswer → Option α) (number : Nat) :
    Except ExchangeError α :=
  match talk.answers[number]? with
  | some (.failure error) => .error error
  | some answer => (fits answer).elim (.error talk.silence) .ok
  | none => .error talk.silence

theorem ask_eq (talk : ExchangeTalk) (call : ExchangeCall) (fits : ExchangeAnswer → Option α) :
    talk.ask call fits = (talk.reply fits 0, talk.asked 1 call) := by
  unfold ask reply
  rw [← List.head?_eq_getElem?]
  cases talk.answers.head? with
  | none => rfl
  | some answer =>
      cases answer with
      | failure error => rfl
      | _ =>
          dsimp only
          cases fits _ <;> rfl

theorem asked_zero (talk : ExchangeTalk) (call : ExchangeCall) : talk.asked 0 call = talk := by
  rw [asked, List.drop_zero, List.replicate_zero, List.append_nil]

theorem asked_asked (talk : ExchangeTalk) (count more : Nat) (call : ExchangeCall) :
    (talk.asked count call).asked more call = talk.asked (count + more) call := by
  simp only [asked, List.drop_drop, List.append_assoc, List.replicate_append_replicate]

theorem reply_asked (talk : ExchangeTalk) (count : Nat) (call : ExchangeCall)
    (fits : ExchangeAnswer → Option α) :
    (talk.asked count call).reply fits 0 = talk.reply fits count := by
  simp only [reply, asked, List.getElem?_drop, Nat.add_zero]

end ExchangeTalk

namespace Setup

variable {engine : Engine}

/-- What the exchange answers in the end: a question is put to it until it is not put off, or until
the retries are used up. -/
def finalReply (setup : Setup) (talk : ExchangeTalk) (fits : ExchangeAnswer → Option α) :
    Except ExchangeError α :=
  setup.retry.finalOutcome (talk.reply fits)

def timesAsked (setup : Setup) (talk : ExchangeTalk) (fits : ExchangeAnswer → Option α) : Nat :=
  setup.retry.lastCall (talk.reply fits) + 1

theorem stateAt_asking (policy : RetryPolicy) (call : ExchangeCall)
    (fits : ExchangeAnswer → Option α) (talk : ExchangeTalk) (used : Nat) :
    policy.stateAt (fun _ => pure ()) (asking call fits) talk used = talk.asked used call := by
  induction used with
  | zero => exact (talk.asked_zero call).symm
  | succ used ih =>
      rw [RetryPolicy.stateAt_succ, ih, asking_run, ExchangeTalk.ask_eq, ← ExchangeTalk.asked_asked]
      rfl

theorem outcomeAt_asking (policy : RetryPolicy) (call : ExchangeCall)
    (fits : ExchangeAnswer → Option α) (talk : ExchangeTalk) :
    policy.outcomeAt (fun _ => pure ()) (asking call fits) talk = talk.reply fits := by
  funext used
  rw [RetryPolicy.outcomeAt, stateAt_asking, asking_run, ExchangeTalk.ask_eq,
    ExchangeTalk.reply_asked]

theorem hear_run (setup : Setup) (call : ExchangeCall) (fits : ExchangeAnswer → Option α)
    (talk : ExchangeTalk) : (setup.hear call fits).run.run talk =
      (setup.finalReply talk fits, talk.asked (setup.timesAsked talk fits) call) := by
  refine (setup.retry.execute_run (fun _ => pure ()) (asking call fits) talk).trans ?_
  rw [outcomeAt_asking, stateAt_asking, asking_run, ExchangeTalk.ask_eq, ExchangeTalk.asked_asked]
  rfl

/-- An activity that asks a question asks nothing else, even if it is told to stop. -/
theorem retrying_asks (call : ExchangeCall) (fits : ExchangeAnswer → Option α) (remaining : Nat)
    (backoff : Backoff) (first : Option ExchangeError) :
    (retrying Engine.wait (Engine.ask call fits) remaining backoff first).Ensures engine
      fun _ after => ∃ count, after.talk = engine.talk.asked count call := by
  induction remaining using Nat.strongRecOn generalizing engine backoff first with
  | ind remaining ih =>
      have asked : (Engine.ask call fits).Ensures engine fun result after =>
          result = .ok (engine.talk.ask call fits).1 ∧
            after.talk = (engine.talk.ask call fits).2 := ⟨rfl, rfl⟩
      rw [ExchangeTalk.ask_eq] at asked
      rw [retrying]
      refine ensures_bind (asked.mono ?_)
      rintro _ middle ⟨rfl, once⟩
      have ends : ∀ answer : Except ExchangeError α, (pure answer : Activity _).Ensures middle
          fun _ after => ∃ count, after.talk = engine.talk.asked count call := fun _ => ⟨1, once⟩
      dsimp only
      cases engine.talk.reply fits 0 with
      | ok value => exact ends _
      | error error =>
          dsimp only
          split
          · exact ends _
          · cases remaining with
            | zero => exact ends _
            | succ fewer =>
                dsimp only
                cases backoff.after error.retryAfter with
                | none => exact ends _
                | some next =>
                    refine ensures_bind ((Engine.wait_ensures next.1).mono ?_)
                    rintro result waited ⟨passed, -⟩
                    have same : waited.talk = engine.talk.asked 1 call := by rw [passed, once]
                    cases result with
                    | error stop => exact ⟨1, same⟩
                    | ok =>
                        refine (ih fewer (Nat.lt_succ_self fewer) next.2 _).mono ?_
                        rintro _ last ⟨count, asked⟩
                        exact ⟨1 + count, by rw [asked, same, ExchangeTalk.asked_asked]⟩

theorem ask_asks (setup : Setup) (call : ExchangeCall) (fits : ExchangeAnswer → Option α) :
    (setup.ask call fits).Ensures engine
      fun _ after => ∃ count, after.talk = engine.talk.asked count call :=
  retrying_asks call fits _ _ _

/-- What the exchange answers in the end comes of a question, unless the activity is told to stop
before. -/
theorem ask_ensures {setup : Setup} {post : Except Interruption (Except ExchangeError α) →
      Engine → Prop}
    (answered : ∀ waited, post (.ok (setup.finalReply engine.talk fits)) { engine with
      talk := engine.talk.asked (setup.timesAsked engine.talk fits) call, waited })
    (stopped : ∀ stop count waited, engine.stopAt ≠ none →
      post (.error stop) { engine with talk := engine.talk.asked count call, waited }) :
    (setup.ask call fits).Ensures engine post := by
  refine ((setup.ask_hears call fits).and (setup.ask_asks call fits)).mono ?_
  rintro result after ⟨⟨kept, heard, stops⟩, count, asked⟩
  generalize after.waited = waited at kept
  cases result with
  | error stop =>
      rw [kept, asked]
      exact stopped stop count waited (stops stop rfl)
  | ok answer =>
      obtain ⟨rfl, talk⟩ := Prod.mk.inj ((setup.hear_run call fits engine.talk).symm.trans
        (heard answer rfl))
      rw [kept, ← talk]
      exact answered waited

end Setup

end SpotSettlement
