import SpotSettlement.Proofs.Engine.Submission

namespace SpotSettlement

/-! # All or nothing

An operation that fails, at whatever point, leaves the store as it was, and so does one that finds
nothing to do.  Any other has changed the store, which tells of it in the audit trail.
-/

open Activity Engine

/-- What a call of settlement gives back when it succeeds. -/
inductive Answer where
  | created (order : Order)
  | acknowledged (transition : Option Transition)
  | canceled (order : Order)
  | rejected (order : Order)
  | ingested (outcome : IngestOutcome)
  | reconciled (outcome : ReconcileOutcome)

/-- Whether the answer says that something was done. -/
def Answer.isEffective : Answer → Bool
  | .acknowledged transition => transition.isSome
  | .ingested .duplicate | .ingested .unmapped => false
  | .reconciled .unchanged | .reconciled .unmapped => false
  | _ => true

def Call.answer (call : Call) (terms : Terms) (now : Instant) (store : Store) :
    Except Failure Answer :=
  match call with
  | .create command => (store.perform (terms.createOrder command now)).1.map .created
  | .acknowledge orderId exchange exchangeOrderId exchangeClientOrderId =>
    (store.perform (terms.acknowledgeOrder orderId exchange exchangeOrderId exchangeClientOrderId
      now)).1.map .acknowledged
  | .cancel orderId account reason =>
    (store.perform (terms.cancelOrder orderId account reason now)).1.map .canceled
  | .reject orderId reason => (store.perform (terms.rejectOrder orderId reason now)).1.map .rejected
  | .fill report => (store.perform (terms.processFill report now)).1.map .ingested
  | .status report => (store.perform (terms.processStatus report now)).1.map .reconciled

namespace Terms

variable {terms : Terms} {store after : Store} {order moved : Order} {now : Instant}
  {orderId account : String}

theorem ne_of_orderEvents {event : OrderEvent}
    (grown : after.orderEvents = store.orderEvents ++ [event]) : after ≠ store := by
  rintro rfl
  simp at grown

theorem Creates.ne {command : OrderCommand}
    (creates : terms.Creates command now order store after) : after ≠ store := by
  cases creates with
  | created _ _ _ _ reserve _ _ =>
      exact ne_of_orderEvents (congrArg (· ++ [_]) (Funds.reserveFor_funds reserve).orderEvents)

theorem Moves.ne {eventType : OrderEventType} {transition : Transition}
    (moves : terms.Moves now eventType transition moved store after) : after ≠ store := by
  cases moves with
  | moved _ close _ _ =>
      exact ne_of_orderEvents (congrArg (· ++ [_]) (releaseIfClosed_funds close).orderEvents)

theorem Fills.ne {report : ExecutionReport} {outcome : IngestOutcome}
    (fills : terms.Fills order report now store outcome after) :
    after ≠ store ∧ (Answer.ingested outcome).isEffective = true := by
  cases fills with
  | applied _ _ _ settle _ _ close _ _ _ _ =>
      have settled := (Funds.settleFill_funds settle).orderEvents
      have closed := (releaseIfClosed_funds close).orderEvents
      exact ⟨ne_of_orderEvents (congrArg (· ++ [_]) (closed.trans settled)), rfl⟩

theorem createOrder_ne {command : OrderCommand}
    (done : (terms.createOrder command now).run store = .ok (order, after)) : after ≠ store :=
  (createOrder_creates done).ne

theorem cancelOrder_ne {reason : Option String}
    (done : (terms.cancelOrder orderId account reason now).run store = .ok (moved, after)) :
    after ≠ store := by
  obtain ⟨_, _, -, -, moves⟩ := cancelOrder_cases done
  exact moves.ne

theorem rejectOrder_ne {reason : String}
    (done : (terms.rejectOrder orderId reason now).run store = .ok (moved, after)) :
    after ≠ store := by
  obtain ⟨_, _, -, -, moves⟩ := rejectOrder_cases done
  exact moves.ne

theorem acknowledgeOrder_eq_iff {exchange exchangeOrderId : String}
    {exchangeClientOrderId : Option String} {outcome : Option Transition}
    (done : (terms.acknowledgeOrder orderId exchange exchangeOrderId exchangeClientOrderId now).run
      store = .ok (outcome, after)) :
    after = store ↔ (Answer.acknowledged outcome).isEffective = false := by
  obtain ⟨_, _, -, -, ⟨rfl, rfl⟩ | ⟨transition, rfl, moves⟩⟩ := acknowledgeOrder_cases done
  · exact iff_of_true rfl rfl
  · exact iff_of_false moves.ne nofun

/-- An order that waits for its acknowledgement changes with it. -/
theorem acknowledgeOrder_ne {exchange exchangeOrderId : String}
    {exchangeClientOrderId : Option String} {outcome : Option Transition}
    (found : store.order? orderId = some order) (new : order.status = .new)
    (done : (terms.acknowledgeOrder orderId exchange exchangeOrderId exchangeClientOrderId now).run
      store = .ok (outcome, after)) : after ≠ store := by
  obtain ⟨other, moved, again, given, ⟨rfl, -⟩ | ⟨transition, -, moves⟩⟩ :=
    acknowledgeOrder_cases done
  · obtain rfl : order = other := Option.some.inj (found.symm.trans again)
    exact absurd (new.symm.trans (Order.acknowledge_again given)) (by decide)
  · exact moves.ne

theorem processFill_eq_iff {report : ExecutionReport} {outcome : IngestOutcome}
    (done : (terms.processFill report now).run store = .ok (outcome, after)) :
    after = store ↔ (Answer.ingested outcome).isEffective = false := by
  obtain ⟨-, -, ⟨-, rfl, rfl⟩ | ⟨order, -, ⟨-, rfl, rfl⟩ | ⟨-, fills⟩⟩⟩ := processFill_cases done
  · exact iff_of_true rfl rfl
  · exact iff_of_true rfl rfl
  · exact iff_of_false fills.ne.1 (by simp [fills.ne.2])

theorem processStatus_eq_iff {report : StatusReport} {outcome : ReconcileOutcome}
    (done : (terms.processStatus report now).run store = .ok (outcome, after)) :
    after = store ↔ (Answer.reconciled outcome).isEffective = false := by
  obtain ⟨-, rfl, rfl⟩ | ⟨order, -, ⟨-, reported⟩ | ⟨-, reported⟩⟩ := processStatus_cases done
  · exact iff_of_true rfl rfl
  · obtain ⟨-, rfl, rfl⟩ | ⟨exchangeOrderId, transition, -, -, acknowledging, rfl⟩ :=
      acknowledgeReported_cases reported
    · exact iff_of_true rfl rfl
    · rw [acknowledgeOrder_eq_iff acknowledging]
      cases transition <;> exact Iff.rfl
  · obtain ⟨transition, moved, -, ⟨-, rfl, rfl⟩ | ⟨change, -, rfl, moves⟩⟩ :=
      reconcileStatus_cases reported
    · exact iff_of_true rfl rfl
    · exact iff_of_false moves.ne nofun

end Terms

/-- What becomes of the store is told by the answer of work that succeeds; work that fails leaves
it alone. -/
theorem Store.perform_eq_iff {α : Type} {store : Store} {work : Work α} {wrap : α → Answer}
    (succeeds : ∀ value after, work.run store = .ok (value, after) →
      (after = store ↔ (wrap value).isEffective = false)) :
    (store.perform work).2 = store ↔
      ∀ answer, (store.perform work).1.map wrap = .ok answer → answer.isEffective = false := by
  cases outcome : (store.perform work).1 with
  | error failure => exact iff_of_true (perform_error outcome) fun _ => nofun
  | ok value =>
      rw [succeeds value _ (perform_ok outcome)]
      constructor
      · rintro idle answer ⟨⟩
        exact idle
      · exact fun all => all _ rfl

/-- A call leaves the store as it was if and only if it fails or has nothing to do. -/
theorem Call.apply_eq_iff (call : Call) (terms : Terms) (now : Instant) (store : Store) :
    call.apply terms now store = store ↔
      ∀ answer, call.answer terms now store = .ok answer → answer.isEffective = false := by
  cases call with
  | create command =>
      exact Store.perform_eq_iff fun _ _ done => iff_of_false (Terms.createOrder_ne done) nofun
  | acknowledge => exact Store.perform_eq_iff fun _ _ => Terms.acknowledgeOrder_eq_iff
  | cancel =>
      exact Store.perform_eq_iff fun _ _ done => iff_of_false (Terms.cancelOrder_ne done) nofun
  | reject =>
      exact Store.perform_eq_iff fun _ _ done => iff_of_false (Terms.rejectOrder_ne done) nofun
  | fill => exact Store.perform_eq_iff fun _ _ => Terms.processFill_eq_iff
  | status => exact Store.perform_eq_iff fun _ _ => Terms.processStatus_eq_iff

/-- The activity has left the store as it was if and only if it gives no value that is not idle. -/
def Activity.Commits {α : Type} (idle : α → Prop) (engine : Engine)
    (result : Except Interruption (Except SettlementError α)) (after : Engine) : Prop :=
  after.store = engine.store ↔ ∀ value, result = .ok (.ok value) → idle value

namespace Activity

variable {α β : Type} {idle : α → Prop} {engine middle after : Engine}
  {result : Except Interruption (Except SettlementError α)}

theorem Commits.none (same : after.store = engine.store)
    (all : ∀ value, result = .ok (.ok value) → idle value) : Commits idle engine result after :=
  iff_of_true same all

theorem Commits.refused {cause : SettlementError} (same : after.store = engine.store) :
    Commits idle engine (.ok (.error cause)) after := .none same fun _ => nofun

theorem Commits.interrupted {stop : Interruption} (same : after.store = engine.store) :
    Commits idle engine (.error stop) after := .none same fun _ => nofun

theorem Commits.after_kept (kept : engine.KeepsData middle)
    (commits : Commits idle middle result after) : Commits idle engine result after := by
  rw [Commits, ← kept.1]
  exact commits

theorem perform_commits {work : Work α}
    (changes : ∀ value after, work.run engine.store = .ok (value, after) → after ≠ engine.store) :
    (Engine.perform work).Ensures engine (Commits (fun _ => False) engine) := by
  refine perform_ensures ?_ ?_ ?_
  · intro value after done
    exact iff_of_false (changes value after (Store.perform_ok_iff.mp done)) fun all => all value rfl
  · exact fun _ _ => .refused rfl
  · exact fun _ _ => .interrupted rfl

theorem perform_map_commits {work : Work β} {respond : β → α}
    (changes : ∀ value after, work.run engine.store = .ok (value, after) → after ≠ engine.store)
    (busy : ∀ value, ¬idle (respond value)) :
    (do
      let recorded ← Engine.perform work
      return recorded.map respond : Activity (Except SettlementError α)).Ensures engine
      (Commits idle engine) := by
  refine ensures_bind ((perform_commits changes).mono ?_)
  intro result after commits
  cases result with
  | error => exact .interrupted (commits.mpr fun _ => nofun)
  | ok answer =>
      cases answer with
      | error cause => exact .refused (commits.mpr fun _ => nofun)
      | ok value =>
          exact iff_of_false (fun same => commits.mp same value rfl) fun all =>
            busy value (all _ rfl)

/-- Looking an order up changes nothing, and what follows may rely on what was found. -/
theorem findOrder_commits {orderId : String}
    {rest : Except SettlementError Order → Activity (Except SettlementError α)}
    (found : ∀ order, engine.store.order? orderId = some order →
      (rest (.ok order)).Ensures engine (Commits idle engine))
    (missing : ∀ cause, rest (.error cause) = pure (.error cause)) :
    (Engine.perform (Terms.findOrder orderId) >>= rest).Ensures engine (Commits idle engine) := by
  refine ensures_bind (perform_ensures ?_ ?_ ?_)
  · intro order after done
    have looked := Store.perform_ok_iff.mp done
    simp only [Terms.findOrder, Work.bind_ok, Work.start_ok, Store.existingOrder_ok] at looked
    obtain ⟨_, _, ⟨-, rfl⟩, lookup, rfl⟩ := looked
    exact found order lookup
  · intro cause _
    simp only [missing]
    exact .refused rfl
  · exact fun _ _ => .interrupted rfl

end Activity

namespace Setup

variable {setup : Setup} {engine : Engine} {order : Order} {orderId account : String}
  {now : Instant}

theorem placeOrder_commits (command : OrderCommand) (risk : RiskDecision) :
    (setup.placeOrder command risk now).Ensures engine (Commits (fun _ => False) engine) := by
  unfold placeOrder
  cases command.validate with
  | error cause => exact .refused rfl
  | ok valid =>
      cases risk with
      | rejected code details => exact .refused rfl
      | approved =>
          refine ensures_bind ((perform_commits fun _ _ => Terms.createOrder_ne).mono ?_)
          intro result after commits
          cases result with
          | error => exact commits
          | ok created => cases created <;> exact commits

theorem cancelRemotely_keepsData (order : Order) :
    (setup.cancelRemotely order).Ensures engine fun _ after => engine.KeepsData after := by
  unfold cancelRemotely
  cases order.exchangeOrderId with
  | none => exact ⟨rfl, rfl⟩
  | some =>
      refine ensures_bind ((setup.ask_keepsData _ _).mono ?_)
      intro result asked kept
      cases result with
      | error => exact kept
      | ok answer =>
          dsimp only
          split <;> exact kept

theorem cancelOrder_commits (orderId account : String) (reason : Option String) :
    (setup.cancelOrder orderId account reason now).Ensures engine
      (Commits (fun _ => False) engine) := by
  unfold cancelOrder
  refine findOrder_commits ?_ fun _ => rfl
  intro order _
  dsimp only
  cases checkCancelable order account with
  | error cause => exact .refused rfl
  | ok =>
      refine ensures_bind ((setup.cancelRemotely_keepsData order).mono ?_)
      intro result asked kept
      cases result with
      | error => exact .interrupted kept.1
      | ok answer =>
          cases answer with
          | error => exact .refused kept.1
          | ok =>
              exact (perform_commits fun _ _ => Terms.cancelOrder_ne).mono fun _ _ commits =>
                commits.after_kept kept

/-- The order had been submitted before. -/
def SubmissionOutcome.Idle (outcome : SubmissionOutcome) : Prop :=
  ∃ status, outcome = .skipped status

theorem acknowledgeRemote_commits (remote : ExchangeOrder)
    (found : engine.store.order? order.id = some order) (new : order.status = .new) :
    (setup.acknowledgeRemote order remote now).Ensures engine
      (Commits SubmissionOutcome.Idle engine) :=
  perform_map_commits (fun _ _ => Terms.acknowledgeOrder_ne found new) fun _ => nofun

theorem settleRefusal_commits (code : Option Int) (details : String)
    (found : engine.store.order? order.id = some order) (new : order.status = .new) :
    (setup.settleRefusal order code details now).Ensures engine
      (Commits SubmissionOutcome.Idle engine) := by
  unfold settleRefusal
  refine ensures_bind ((setup.findRemote_keepsData order).mono ?_)
  intro result asked kept
  cases result with
  | error => exact .interrupted kept.1
  | ok answer =>
      cases answer with
      | error => exact .refused kept.1
      | ok remote =>
          cases remote with
          | some remote =>
              exact (setup.acknowledgeRemote_commits remote (kept.1 ▸ found) new).mono
                fun _ _ commits => commits.after_kept kept
          | none =>
              exact Ensures.mono (perform_map_commits (fun _ _ => Terms.rejectOrder_ne) fun _ =>
                nofun) fun _ _ commits => commits.after_kept kept

theorem submitOrder_commits (orderId : String) :
    (setup.submitOrder orderId now).Ensures engine (Commits SubmissionOutcome.Idle engine) := by
  unfold submitOrder
  refine findOrder_commits ?_ fun _ => rfl
  intro order lookup
  obtain ⟨-, rfl⟩ := Store.order?_some lookup
  by_cases new : order.status = .new
  · simp only [new, ne_eq, not_true, if_false]
    refine ensures_bind ((setup.ask_keepsData _ _).mono ?_)
    intro result asked kept
    cases result with
    | error => exact .interrupted kept.1
    | ok answer =>
        have found := kept.1 ▸ lookup
        dsimp only
        split
        · exact (setup.acknowledgeRemote_commits _ found new).mono fun _ _ commits =>
            commits.after_kept kept
        · exact (setup.settleRefusal_commits _ _ found new).mono fun _ _ commits =>
            commits.after_kept kept
        · exact .refused kept.1
  · simp only [ne_eq, new, not_false_eq_true, if_true]
    refine .none rfl ?_
    rintro outcome ⟨⟩
    exact ⟨order.status, rfl⟩

end Setup

/-- Operations do all or nothing.  A call of settlement leaves the store as it was if and only if it
fails or answers that there was nothing to do, and one that failed leaves no trace in what comes
after it.  Placing, cancelling and submitting an order leave the store as it was if and only if they
fail, are interrupted, or find the order submitted before, whatever the exchange answers. -/
theorem operations_do_all_or_nothing (terms : Terms) (now : Instant) (store : Store) (setup : Setup)
    (engine : Engine) :
    (∀ call : Call, (call.apply terms now store = store ↔
      ∀ answer, call.answer terms now store = .ok answer → answer.isEffective = false)) ∧
    (∀ (call : Call) failure, call.answer terms now store = .error failure → ∀ later,
      store.afterAll (.settle call terms now :: later) = store.afterAll later) ∧
    (∀ command risk, (setup.placeOrder command risk now).Ensures engine fun result after =>
      (after.store = engine.store ↔ ∀ order, result ≠ .ok (.ok order))) ∧
    (∀ orderId account reason, (setup.cancelOrder orderId account reason now).Ensures engine
      fun result after => (after.store = engine.store ↔ ∀ order, result ≠ .ok (.ok order))) ∧
    ∀ orderId, (setup.submitOrder orderId now).Ensures engine fun result after =>
      (after.store = engine.store ↔
        ∀ outcome, result = .ok (.ok outcome) → ∃ status, outcome = .skipped status) := by
  refine ⟨fun call => call.apply_eq_iff terms now store, ?_, setup.placeOrder_commits,
    setup.cancelOrder_commits, setup.submitOrder_commits⟩
  intro call failure failed later
  have same : call.apply terms now store = store := by
    rw [call.apply_eq_iff, failed]
    exact fun _ => nofun
  exact congrArg (fun store : Store => store.afterAll later) same

/-- A fill that comes before the acknowledgement of its order is refused when all but the order has
been settled, and is applied when it comes again. -/
theorem sample_refused_fill_leaves_no_trace :
    let fill : Request := .settle (.fill (Sample.trade none)) Sample.terms Sample.start
    (∃ failure, (Call.fill (Sample.trade none)).answer Sample.terms Sample.start
      (Store.reached Sample.placed) = .error failure) ∧
    (Store.reached Sample.placed).afterAll (fill :: Sample.traded.drop 2) =
      Store.reached Sample.traded ∧
    (Store.reached Sample.traded).executions.length = 1 := by
  intro fill
  have refused : ((Call.fill (Sample.trade none)).answer Sample.terms Sample.start
      (Store.reached Sample.placed)).isOk = false := by
    decide +kernel
  have applied : (Store.reached Sample.traded).executions.length = 1 := by decide +kernel
  have whole : Sample.placed ++ Sample.traded.drop 2 = Sample.traded := rfl
  have joined := Store.afterAll_append {} Sample.placed (Sample.traded.drop 2)
  rw [whole] at joined
  cases outcome : (Call.fill (Sample.trade none)).answer Sample.terms Sample.start
      (Store.reached Sample.placed) with
  | ok answer =>
      rw [outcome] at refused
      exact absurd refused nofun
  | error failure =>
      refine ⟨⟨failure, rfl⟩, ?_, applied⟩
      have untraced := (operations_do_all_or_nothing Sample.terms Sample.start
        (Store.reached Sample.placed) default default).2.1 _ failure outcome
      exact (untraced _).trans joined.symm

end SpotSettlement
