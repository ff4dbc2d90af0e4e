import SpotSettlement.Proofs.Engine.Routines
import SpotSettlement.Proofs.Settlement.Runs

namespace SpotSettlement

/-! # Cancelling while orders are under way

Submissions, cancellations and cycles go on at the same time: between two deeds of one the others
do theirs, and calls of settlement come in.  The exchange holds open the orders that it has taken
until it gives them up, and whether or not its answer arrives.

A cancellation that succeeds has asked the exchange to cancel if and only if the order had its
number there when the cancellation looked it up.  Where it asked, the exchange has given the order
up; where it did not, the exchange may hold it still.
-/

/-- An order that the exchange holds open. -/
structure HeldOrder where
  exchangeOrderId : String
  clientOrderId : String
  instrument : String
  deriving DecidableEq

/-- Whether a lookup names an order.  The exchange's number comes before the client id. -/
def OrderLookup.names (lookup : OrderLookup) (order : HeldOrder) : Bool :=
  order.instrument == lookup.instrument &&
    match lookup.exchangeOrderId with
    | some number => order.exchangeOrderId == number
    | none => lookup.clientOrderId == some order.clientOrderId

/-- How the exchange takes a question. -/
structure Reaction where
  /-- Whether it does what it is asked to. -/
  complies : Bool
  /-- The number of an order that it takes. -/
  number : String
  answer : ExchangeAnswer

namespace Reaction

/-- What the exchange holds open after a question. -/
def heldAfter (reaction : Reaction) (held : List HeldOrder) : ExchangeCall → List HeldOrder
  | .placeOrder request =>
    if reaction.complies then held ++ [⟨reaction.number, request.clientOrderId, request.instrument⟩]
    else held
  | .cancelOrder lookup =>
    if reaction.complies then held.filter (!lookup.names ·) else held
  | .queryOrder _ | .openOrders | .recentTrades .. => held

/-- Whether the answer is true: an order that is said to be placed or canceled is, one that is
refused is not placed, and one that is said to be unknown is not held.  Other errors say nothing. -/
def isHonest (reaction : Reaction) (held : List HeldOrder) (call : ExchangeCall) : Bool :=
  match call, reaction.answer with
  | .placeOrder _, .order order => reaction.complies && order.exchangeOrderId == reaction.number
  | .placeOrder _, .failure (.rejected ..) => !reaction.complies
  | .cancelOrder _, .order _ => reaction.complies
  | .cancelOrder lookup, .failure (.notFound _) | .queryOrder lookup, .failure (.notFound _) =>
    held.all (!lookup.names ·)
  | _, _ => true

variable {reaction : Reaction} {held : List HeldOrder} {lookup : OrderLookup}

theorem not_names_of_complies (complies : reaction.complies = true) :
    ∀ order ∈ reaction.heldAfter held (.cancelOrder lookup), lookup.names order = false := by
  intro order member
  rw [heldAfter, if_pos complies] at member
  exact Bool.not_eq_true' _ ▸ (List.mem_filter.mp member).2

theorem not_names_of_unknown (unknown : held.all (!lookup.names ·) = true) :
    ∀ order ∈ reaction.heldAfter held (.cancelOrder lookup), lookup.names order = false := by
  by_cases complies : reaction.complies = true
  · exact not_names_of_complies complies
  · rw [heldAfter, if_neg complies]
    exact fun order member => Bool.not_eq_true' _ ▸ List.all_eq_true.mp unknown order member

end Reaction

def Deed.call? : Deed → Option ExchangeCall
  | .askOrder call => some call
  | .askOpenOrders => some .openOrders
  | .askTrades instrument since => some (.recentTrades instrument since)
  | _ => none

/-- What someone sets out to do. -/
inductive Errand where
  | submit (orderId : String) (now : Instant)
  | cancel (orderId account : String) (reason : Option String) (now : Instant)
  | catchUp (now : Instant)
  deriving DecidableEq

namespace Errand

inductive Outcome where
  | submitted (result : Except SettlementError Setup.SubmissionOutcome)
  | canceled (result : Except SettlementError Order)
  | caughtUp (result : Except ExchangeError Setup.CycleReport)

def routine (setup : Setup) : Errand → Routine Outcome
  | .submit orderId now => do return .submitted (← setup.submitRoutine orderId now)
  | .cancel orderId account reason now =>
    do return .canceled (← setup.cancelRoutine orderId account reason now)
  | .catchUp now => do return .caughtUp (← setup.cycleRoutine now)

def activity (setup : Setup) : Errand → Activity Outcome
  | .submit orderId now => do return .submitted (← setup.submitOrder orderId now)
  | .cancel orderId account reason now =>
    do return .canceled (← setup.cancelOrder orderId account reason now)
  | .catchUp now => do return .caughtUp (← setup.runCycle now)

/-- An errand that nothing comes between is what the engine does. -/
theorem run_routine (setup : Setup) (errand : Errand) :
    (errand.routine setup).run setup = errand.activity setup := by
  cases errand with
  | submit orderId now =>
      exact Routine.run_bind_eq (setup.run_submitRoutine orderId now) fun _ => rfl
  | cancel orderId account reason now =>
      exact Routine.run_bind_eq (setup.run_cancelRoutine orderId account reason now) fun _ => rfl
  | catchUp now => exact Routine.run_bind_eq (setup.run_cycleRoutine now) fun _ => rfl

end Errand

/-- A deed that was done, with its result and what the exchange held open right after it. -/
structure DoneDeed where
  deed : Deed
  result : deed.Result
  held : List HeldOrder

/-- An errand under way: the deeds done so far, and what is left of its routine.  Nothing is left of
one that was interrupted. -/
structure Pursuit where
  errand : Errand
  log : List DoneDeed := []
  rest : Option (Routine Errand.Outcome)

namespace Pursuit

def start (setup : Setup) (errand : Errand) : Pursuit where
  errand := errand
  rest := some (errand.routine setup)

def after (pursuit : Pursuit) (deed : Deed) (rest : deed.Result → Routine Errand.Outcome)
    (held : List HeldOrder) : Except Interruption deed.Result → Pursuit
  | .ok result =>
    { pursuit with log := pursuit.log ++ [⟨deed, result, held⟩], rest := some (rest result) }
  | .error _ => { pursuit with rest := none }

/-- The order that a cancellation returns when it succeeds. -/
def canceledOrder? (pursuit : Pursuit) : Option Order :=
  match pursuit.rest with
  | some (.done (.canceled (.ok order))) => some order
  | _ => none

theorem rest_of_canceledOrder? {pursuit : Pursuit} {order : Order}
    (canceled : pursuit.canceledOrder? = some order) :
    pursuit.rest = some (.done (.canceled (.ok order))) := by
  unfold canceledOrder? at canceled
  split at canceled
  · obtain rfl := Option.some.inj canceled
    assumption
  · contradiction

end Pursuit

/-- The engine, the orders that the exchange holds open, and the errands in the order in which they
were begun. -/
structure Trading where
  engine : Engine
  held : List HeldOrder := []
  pursuits : List Pursuit := []

inductive TradingEvent where
  /-- Someone sets out on an errand. -/
  | begin (errand : Errand)
  /-- The next deed of an errand is done, and the exchange reacts if it is asked. -/
  | proceed (index : Nat) (reaction : Reaction)
  /-- The exchange closes an order that it holds. -/
  | close (order : HeldOrder)
  /-- A request comes in from elsewhere. -/
  | request (request : Request)

/-- The engine when the exchange is going to give an answer. -/
def Engine.hearing (engine : Engine) (answer : ExchangeAnswer) : Engine :=
  { engine with talk := { answers := [answer], calls := engine.talk.calls } }

namespace Trading

/-- Does a deed, if the exchange tells the truth. -/
def perform (setup : Setup) (trading : Trading) (index : Nat) (pursuit : Pursuit) (deed : Deed)
    (rest : deed.Result → Routine Errand.Outcome) (reaction : Reaction) : Trading :=
  if ∀ call ∈ deed.call?, reaction.isHonest trading.held call then
    let held := deed.call?.elim trading.held (reaction.heldAfter trading.held)
    let ended := (deed.perform setup).run.run (trading.engine.hearing reaction.answer)
    { engine := ended.2, held,
      pursuits := trading.pursuits.set index (pursuit.after deed rest held ended.1) }
  else trading

def step (setup : Setup) (trading : Trading) : TradingEvent → Trading
  | .begin errand =>
    { trading with pursuits := trading.pursuits ++ [.start setup errand] }
  | .proceed index reaction =>
    match trading.pursuits[index]? with
    | none => trading
    | some pursuit =>
      match pursuit.rest with
      | some (.next deed rest) => trading.perform setup index pursuit deed rest reaction
      | _ => trading
  | .close order => { trading with held := trading.held.erase order }
  | .request request =>
    { trading with engine := { trading.engine with store := request.apply trading.engine.store } }

def reached (setup : Setup) (engine : Engine) (held : List HeldOrder)
    (events : List TradingEvent) : Trading :=
  events.foldl (step setup) { engine, held }

end Trading

/-- Deeds, done one after the other, lead from a routine to what is left of it. -/
inductive Routine.Leads {α : Type} : Routine α → List DoneDeed → Routine α → Prop
  | here {routine : Routine α} : routine.Leads [] routine
  | on {deed : Deed} {rest : deed.Result → Routine α} {result : deed.Result} {held : List HeldOrder}
      {log : List DoneDeed} {last : Routine α} (further : (rest result).Leads log last) :
      (Routine.next deed rest).Leads (⟨deed, result, held⟩ :: log) last

namespace Routine

variable {α β : Type} {routine : Routine α} {log : List DoneDeed} {value : α} {deed : Deed}
  {rest : deed.Result → Routine α}

theorem Leads.snoc (leads : routine.Leads log (.next deed rest)) (result : deed.Result)
    (held : List HeldOrder) : routine.Leads (log ++ [⟨deed, result, held⟩]) (rest result) := by
  generalize last : Routine.next deed rest = final at leads
  induction leads with
  | here =>
      subst last
      exact .on .here
  | on further ih => exact .on (ih last)

/-- The deeds lead to the end of the routine, with a value. -/
def Ends (routine : Routine α) (log : List DoneDeed) (value : α) : Prop :=
  routine.Leads log (.done value)

theorem ends_pure {a : α} : (pure a : Routine α).Ends log value ↔ log = [] ∧ a = value := by
  constructor
  · intro ends
    cases ends
    exact ⟨rfl, rfl⟩
  · rintro ⟨rfl, rfl⟩
    exact .here

theorem ends_next : (Routine.next deed rest).Ends log value ↔
    ∃ result held later, log = ⟨deed, result, held⟩ :: later ∧ (rest result).Ends later value := by
  constructor
  · intro ends
    cases ends with
    | on further => exact ⟨_, _, _, rfl, further⟩
  · rintro ⟨result, held, later, rfl, ends⟩
    exact .on ends

theorem ends_only {result : deed.Result} :
    (only deed).Ends log result ↔ ∃ held, log = [⟨deed, result, held⟩] := by
  rw [only, ends_next]
  constructor
  · rintro ⟨other, held, later, rfl, ends⟩
    obtain ⟨rfl, rfl⟩ := ends_pure.mp ends
    exact ⟨held, rfl⟩
  · rintro ⟨held, rfl⟩
    exact ⟨result, held, [], rfl, .here⟩

theorem ends_bind {f : α → Routine β} {final : β} : (routine >>= f).Ends log final ↔
    ∃ value early later, log = early ++ later ∧ routine.Ends early value ∧
      (f value).Ends later final := by
  change (routine.bind f).Ends log final ↔ _
  induction routine generalizing log with
  | done value =>
      constructor
      · exact fun ends => ⟨value, [], log, rfl, .here, ends⟩
      · rintro ⟨other, early, later, rfl, ends, further⟩
        obtain ⟨rfl, rfl⟩ := ends_pure.mp ends
        exact further
  | next deed rest ih =>
      rw [bind, ends_next]
      constructor
      · rintro ⟨result, held, later, rfl, ends⟩
        obtain ⟨value, early, last, rfl, first, further⟩ := (ih result).mp ends
        exact ⟨value, ⟨deed, result, held⟩ :: early, last, rfl, .on first, further⟩
      · rintro ⟨value, early, later, rfl, ends, further⟩
        obtain ⟨result, held, middle, rfl, first⟩ := ends_next.mp ends
        exact ⟨result, held, middle ++ later, rfl,
          (ih result).mpr ⟨value, middle, later, rfl, first, further⟩⟩

end Routine

/-- The exchange has given the order up, or does not know it. -/
def GivenUp : Except ExchangeError ExchangeOrder → Prop
  | .ok _ | .error (.notFound _) => True
  | _ => False

theorem GivenUp.not_limited {error : ExchangeError} (given : GivenUp (.error error)) :
    error.isRateLimited = false := by
  cases error <;> trivial

namespace Setup

open Routine

variable {setup : Setup} {log : List DoneDeed} {call : ExchangeCall}
  {answer : Except ExchangeError ExchangeOrder}

theorem retrying_ends {remaining : Nat} {backoff : Backoff} {first : Option ExchangeError}
    (ends : (retrying (fun delay => only (.wait delay)) (only (.askOrder call)) remaining backoff
      first).Ends log answer) (given : GivenUp answer)
    (limited : ∀ error ∈ first, error.isRateLimited = true) :
    ∃ early held, log = early ++ [⟨.askOrder call, answer, held⟩] := by
  induction remaining using Nat.strongRecOn generalizing log backoff first with
  | ind remaining ih =>
      unfold retrying at ends
      obtain ⟨result, early, later, rfl, asked, further⟩ := ends_bind.mp ends
      obtain ⟨before, rfl⟩ := ends_only.mp asked
      have remembered : ∀ error, error.isRateLimited = true →
          (first.getD error).isRateLimited = true := by
        intro error again
        cases first with
        | none => exact again
        | some earlier => exact limited earlier rfl
      -- To be put off is no answer, however often it happens.
      have putOff : ∀ error, error.isRateLimited = true →
          Except.error (first.getD error) ≠ answer := by
        rintro error again rfl
        have settled := given.not_limited
        rw [remembered error again] at settled
        contradiction
      cases result with
      | ok value =>
          obtain ⟨rfl, rfl⟩ := ends_pure.mp further
          exact ⟨[], before, rfl⟩
      | error error =>
          dsimp only at further
          by_cases again : error.isRateLimited = true
          · rw [if_neg (not_not_intro again)] at further
            cases remaining with
            | zero => exact absurd (ends_pure.mp further).2 (putOff error again)
            | succ fewer =>
                dsimp only at further
                cases after : backoff.after error.retryAfter with
                | none =>
                    rw [after] at further
                    exact absurd (ends_pure.mp further).2 (putOff error again)
                | some next =>
                    rw [after] at further
                    obtain ⟨-, waiting, last, rfl, -, retried⟩ := ends_bind.mp further
                    obtain ⟨middle, held, rfl⟩ := ih fewer (Nat.lt_succ_self fewer) retried
                      fun _ same => Option.some.inj same ▸ remembered error again
                    exact ⟨⟨.askOrder call, .error error, before⟩ :: (waiting ++ middle), held,
                      by simp only [List.cons_append, List.nil_append, List.append_assoc]⟩
          · rw [if_pos again] at further
            obtain ⟨rfl, rfl⟩ := ends_pure.mp further
            exact ⟨[], before, rfl⟩

/-- A question that is put until it is answered ends with its answer, unless it is put off to the
end. -/
theorem askRoutine_ends (ends : (setup.askRoutine call).Ends log answer) (given : GivenUp answer) :
    ∃ early held, log = early ++ [⟨.askOrder call, answer, held⟩] :=
  retrying_ends ends given nofun

/-- Cancelling an order at the exchange succeeds without a question if the order has no number there,
and else with the answer to its last question. -/
theorem cancelRemotelyRoutine_ends {order : Order}
    (ends : (setup.cancelRemotelyRoutine order).Ends log (.ok ())) :
    (order.exchangeOrderId = none ∧ log = []) ∨
      ∃ number early answer held, order.exchangeOrderId = some number ∧
        log = early ++ [⟨.askOrder (.cancelOrder (.ofOrder order)), answer, held⟩] ∧
        GivenUp answer := by
  unfold cancelRemotelyRoutine at ends
  cases known : order.exchangeOrderId with
  | none =>
      rw [known] at ends
      exact .inl ⟨rfl, (ends_pure.mp ends).1⟩
  | some number =>
      rw [known] at ends
      obtain ⟨answer, early, later, rfl, asked, further⟩ := ends_bind.mp ends
      have given : later = [] ∧ GivenUp answer := by
        cases answer with
        | ok => exact ⟨(ends_pure.mp further).1, trivial⟩
        | error error =>
            cases error with
            | notFound => exact ⟨(ends_pure.mp further).1, trivial⟩
            | _ => exact absurd (ends_pure.mp further).2 nofun
      obtain ⟨rfl, given⟩ := given
      obtain ⟨middle, held, rfl⟩ := askRoutine_ends asked given
      exact .inr ⟨number, middle, answer, held, rfl, List.append_nil _, given⟩

/-- A cancellation that succeeds looks the order up, cancels it at the exchange, and then cancels it
here. -/
theorem cancelRoutine_ends {orderId account : String} {reason : Option String} {now : Instant}
    {order : Order} (ends : (setup.cancelRoutine orderId account reason now).Ends log (.ok order)) :
    ∃ found before asked after,
      log = ⟨.findOrder orderId, .ok found, before⟩ ::
        (asked ++ [⟨.cancel orderId account reason now, .ok order, after⟩]) ∧
      (setup.cancelRemotelyRoutine found).Ends asked (.ok ()) := by
  obtain ⟨result, early, later, rfl, looked, further⟩ := ends_bind.mp ends
  obtain ⟨before, rfl⟩ := ends_only.mp looked
  cases result with
  | error => exact absurd (ends_pure.mp further).2 nofun
  | ok found =>
      dsimp only at further
      cases check : checkCancelable found account with
      | error cause =>
          rw [check] at further
          exact absurd (ends_pure.mp further).2 nofun
      | ok =>
          rw [check] at further
          obtain ⟨answer, asked, last, rfl, remotely, locally⟩ := ends_bind.mp further
          cases answer with
          | error => exact absurd (ends_pure.mp locally).2 nofun
          | ok =>
              obtain ⟨after, rfl⟩ := ends_only.mp locally
              exact ⟨found, before, asked, after, rfl, remotely⟩

end Setup

/-- When the exchange says that an order is canceled or unknown, it does not hold the order. -/
def DoneDeed.Truthful : DoneDeed → Prop
  | ⟨.askOrder (.cancelOrder lookup), answer, held⟩ =>
    GivenUp answer → ∀ order ∈ held, lookup.names order = false
  | _ => True

/-- The deed asks the exchange to cancel an order under these names. -/
def DoneDeed.AsksToCancel (done : DoneDeed) (lookup : OrderLookup) : Prop :=
  done.deed.call? = some (.cancelOrder lookup)

/-- An order is canceled at the exchange if and only if it has its number there, and then the
exchange no longer holds it. -/
theorem Setup.cancelRemotelyRoutine_asks {setup : Setup} {order : Order} {log : List DoneDeed}
    (ends : (setup.cancelRemotelyRoutine order).Ends log (.ok ()))
    (truthful : ∀ done ∈ log, done.Truthful) :
    ((∃ done ∈ log, done.AsksToCancel (.ofOrder order)) ↔ order.exchangeOrderId.isSome = true) ∧
      ∀ done ∈ log.getLast?, done.AsksToCancel (.ofOrder order) ∧
        ∀ held ∈ done.held, (OrderLookup.ofOrder order).names held = false := by
  obtain ⟨unnumbered, rfl⟩ | ⟨number, early, answer, held, numbered, rfl, given⟩ :=
    cancelRemotelyRoutine_ends ends
  · refine ⟨?_, fun done member => absurd member (Option.not_mem_none done)⟩
    rw [unnumbered]
    exact iff_of_false (fun ⟨_, member, _⟩ => absurd member List.not_mem_nil) Bool.false_ne_true
  · have last := List.mem_append_right early (List.mem_singleton_self
      (⟨.askOrder (.cancelOrder (.ofOrder order)), answer, held⟩ : DoneDeed))
    refine ⟨?_, fun done same => ?_⟩
    · rw [numbered]
      exact iff_of_true ⟨_, last, rfl⟩ rfl
    · rw [List.getLast?_append, List.getLast?_singleton] at same
      obtain rfl := Option.some.inj same
      exact ⟨rfl, truthful _ last given⟩

/-- The deeds of the errand so far are those of its routine, and the exchange told the truth. -/
structure Pursuit.Sound (setup : Setup) (pursuit : Pursuit) : Prop where
  follows : ∀ rest ∈ pursuit.rest, (pursuit.errand.routine setup).Leads pursuit.log rest
  truthful : ∀ done ∈ pursuit.log, done.Truthful

namespace Trading

variable {setup : Setup}

theorem truthful_of_honest {engine : Engine} {held : List HeldOrder} {deed : Deed}
    {reaction : Reaction} {result : deed.Result}
    (honest : ∀ call ∈ deed.call?, reaction.isHonest held call)
    (done : ((deed.perform setup).run.run (engine.hearing reaction.answer)).1 = .ok result) :
    DoneDeed.Truthful ⟨deed, result, deed.call?.elim held (reaction.heldAfter held)⟩ := by
  cases deed with
  | askOrder call =>
      cases call with
      | cancelOrder lookup =>
          intro given
          have honest : reaction.isHonest held (.cancelOrder lookup) := honest _ rfl
          obtain ⟨complies, number, answer⟩ := reaction
          cases answer with
          | order found => exact Reaction.not_names_of_complies honest
          | failure error =>
              obtain rfl : .error error = result := Except.ok.inj done
              cases error with
              | notFound => exact Reaction.not_names_of_unknown honest
              | _ => exact given.elim
          | orders | trades =>
              obtain rfl : .error (.transport "no answer") = result := Except.ok.inj done
              exact given.elim
      | _ => trivial
  | _ => trivial

theorem start_sound (errand : Errand) : (Pursuit.start setup errand).Sound setup := by
  refine ⟨fun rest same => ?_, fun _ member => absurd member List.not_mem_nil⟩
  have same : some (errand.routine setup) = some rest := same
  exact Option.some.inj same ▸ .here

theorem after_sound {pursuit : Pursuit} (sound : pursuit.Sound setup) {deed : Deed}
    {rest : deed.Result → Routine Errand.Outcome} (next : pursuit.rest = some (.next deed rest))
    {held : List HeldOrder} {outcome : Except Interruption deed.Result}
    (truthful : ∀ result, outcome = .ok result → DoneDeed.Truthful ⟨deed, result, held⟩) :
    (pursuit.after deed rest held outcome).Sound setup := by
  cases outcome with
  | error => exact ⟨nofun, sound.truthful⟩
  | ok result =>
      refine ⟨fun left same => ?_, fun done member => ?_⟩
      · obtain rfl := Option.some.inj same
        exact (sound.follows _ next).snoc result held
      · obtain earlier | last := List.mem_append.mp member
        · exact sound.truthful done earlier
        · obtain rfl := List.mem_singleton.mp last
          exact truthful result rfl

theorem perform_sound {trading : Trading} {index : Nat} {pursuit : Pursuit} {deed : Deed}
    {rest : deed.Result → Routine Errand.Outcome} (reaction : Reaction)
    (sound : ∀ pursuit ∈ trading.pursuits, pursuit.Sound setup) (mine : pursuit.Sound setup)
    (next : pursuit.rest = some (.next deed rest)) :
    ∀ other ∈ (trading.perform setup index pursuit deed rest reaction).pursuits,
      other.Sound setup := by
  intro other member
  by_cases honest : ∀ call ∈ deed.call?, reaction.isHonest trading.held call
  · rw [perform, if_pos honest] at member
    obtain earlier | rfl := List.mem_or_eq_of_mem_set member
    · exact sound other earlier
    · exact after_sound mine next fun _ => truthful_of_honest honest
  · rw [perform, if_neg honest] at member
    exact sound other member

theorem step_proceed_cases (trading : Trading) (index : Nat) (reaction : Reaction) :
    trading.step setup (.proceed index reaction) = trading ∨
      ∃ pursuit ∈ trading.pursuits, ∃ deed rest, pursuit.rest = some (.next deed rest) ∧
        trading.step setup (.proceed index reaction) =
          trading.perform setup index pursuit deed rest reaction := by
  simp only [step]
  split
  · exact .inl rfl
  · split
    · exact .inr ⟨_, List.mem_of_getElem? ‹_›, _, _, ‹_›, rfl⟩
    · exact .inl rfl

theorem step_sound {trading : Trading} (event : TradingEvent)
    (sound : ∀ pursuit ∈ trading.pursuits, pursuit.Sound setup) :
    ∀ pursuit ∈ (trading.step setup event).pursuits, pursuit.Sound setup := by
  cases event with
  | begin errand =>
      intro pursuit member
      obtain earlier | last := List.mem_append.mp member
      · exact sound pursuit earlier
      · obtain rfl := List.mem_singleton.mp last
        exact start_sound errand
  | proceed index reaction =>
      obtain same | ⟨pursuit, member, deed, rest, next, performed⟩ :=
        trading.step_proceed_cases index reaction
      · rw [same]
        exact sound
      · rw [performed]
        exact perform_sound reaction sound (sound pursuit member) next
  | close | request => exact sound

theorem reached_sound (setup : Setup) (engine : Engine) (held : List HeldOrder)
    (events : List TradingEvent) :
    ∀ pursuit ∈ (reached setup engine held events).pursuits, pursuit.Sound setup := by
  unfold reached
  have start : ∀ pursuit ∈ ({ engine, held } : Trading).pursuits, pursuit.Sound setup :=
    fun _ member => absurd member List.not_mem_nil
  revert start
  generalize ({ engine, held } : Trading) = trading
  intro start
  induction events generalizing trading with
  | nil => exact start
  | cons event rest ih => exact ih _ (step_sound event start)

end Trading

/-! The sample order is submitted and then canceled.  The exchange takes it, but its answer may be
lost on the way. -/

namespace Sample

def setup : Setup := { (default : Setup) with terms, exchange := "binance" }

def engine : Engine := { health := .initial "binance" start }

/-- The sample order as the exchange sees it. -/
def remote (rawStatus : String) : ExchangeOrder where
  exchangeOrderId := "x-1"
  clientOrderId := some "c-1"
  instrument := "BTCUSDT"
  side := .buy
  orderType := some .limit
  quantity := units 2
  executed := .zero
  price := some (units 100)
  rawStatus
  status := none
  updatedAt := start

/-- The exchange does what it is asked to. -/
def complying (answer : ExchangeAnswer) : Reaction := ⟨true, "x-1", answer⟩

def lost : ExchangeAnswer := .failure (.transport "connection reset")

/-- The order is placed here and at the exchange, which gives an answer. -/
def submitted (answer : ExchangeAnswer) : List TradingEvent :=
  placed.map .request ++ [.begin (.submit "o-1" start), .proceed 0 (complying lost),
    .proceed 0 (complying answer), .proceed 0 (complying lost)]

/-- The order is canceled after it was submitted. -/
def withdrawn (answer : ExchangeAnswer) : List TradingEvent :=
  submitted answer ++ [.begin (.cancel "o-1" "a-1" none start), .proceed 1 (complying lost),
    .proceed 1 (complying (.order (remote "CANCELED"))), .proceed 1 (complying lost)]

end Sample

namespace Trading

/-- A cancellation that succeeds has asked the exchange to cancel the order if and only if the order
had its number at the exchange when the cancellation looked it up.  If it asked, then its last
question before it canceled the order here is that one, and the exchange no longer held the order
after it. -/
theorem cancel_asks_exchange_iff_numbered (setup : Setup) (engine : Engine)
    (held : List HeldOrder) (events : List TradingEvent) {pursuit : Pursuit}
    (member : pursuit ∈ (reached setup engine held events).pursuits)
    {orderId account : String} {reason : Option String} {now : Instant}
    (errand : pursuit.errand = .cancel orderId account reason now) {order : Order}
    (canceled : pursuit.canceledOrder? = some order) :
    ∃ found before asked after,
      pursuit.log = ⟨.findOrder orderId, .ok found, before⟩ ::
        (asked ++ [⟨.cancel orderId account reason now, .ok order, after⟩]) ∧
      ((∃ done ∈ asked, done.AsksToCancel (.ofOrder found)) ↔
        found.exchangeOrderId.isSome = true) ∧
      ∀ done ∈ asked.getLast?, done.AsksToCancel (.ofOrder found) ∧
        ∀ order ∈ done.held, (OrderLookup.ofOrder found).names order = false := by
  obtain ⟨follows, truthful⟩ := reached_sound setup engine held events pursuit member
  have ends : (Errand.routine setup (.cancel orderId account reason now)).Ends pursuit.log
      (.canceled (.ok order)) := errand ▸ follows _ (Pursuit.rest_of_canceledOrder? canceled)
  obtain ⟨result, log, later, logged, cancels, returns⟩ := Routine.ends_bind.mp ends
  obtain ⟨rfl, same⟩ := Routine.ends_pure.mp returns
  obtain rfl := Errand.Outcome.canceled.inj same
  rw [List.append_nil] at logged
  subst logged
  obtain ⟨found, before, asked, after, logged, remotely⟩ := Setup.cancelRoutine_ends cancels
  have said : ∀ done ∈ asked, done.Truthful := fun done member => by
    rw [logged] at truthful
    exact truthful done (List.mem_cons_of_mem _ (List.mem_append_left _ member))
  exact ⟨found, before, asked, after, logged, Setup.cancelRemotelyRoutine_asks remotely said⟩

/-- The cancellation of the sample order, the answer to whose placing arrived. -/
theorem sample_cancel_asks_exchange :
    ∃ pursuit ∈ (reached Sample.setup Sample.engine []
        (Sample.withdrawn (.order (Sample.remote "NEW")))).pursuits,
      ∃ order, pursuit.canceledOrder? = some order ∧
      ∃ found before asked after,
        pursuit.log = ⟨.findOrder "o-1", .ok found, before⟩ ::
          (asked ++ [⟨.cancel "o-1" "a-1" none Sample.start, .ok order, after⟩]) ∧
        ((∃ done ∈ asked, done.AsksToCancel (.ofOrder found)) ↔
          found.exchangeOrderId.isSome = true) ∧
        ∀ done ∈ asked.getLast?, done.AsksToCancel (.ofOrder found) ∧
          ∀ order ∈ done.held, (OrderLookup.ofOrder found).names order = false := by
  have ended : (reached Sample.setup Sample.engine []
      (Sample.withdrawn (.order (Sample.remote "NEW")))).pursuits[1]?.map
        (fun pursuit => (pursuit.errand, pursuit.canceledOrder?.isSome)) =
      some (.cancel "o-1" "a-1" none Sample.start, true) := by decide +kernel
  obtain ⟨pursuit, listed, same⟩ := Option.map_eq_some_iff.mp ended
  obtain ⟨errand, isSome⟩ := Prod.mk.inj same
  obtain ⟨order, canceled⟩ := Option.isSome_iff_exists.mp isSome
  have member := List.mem_of_getElem? listed
  exact ⟨pursuit, member, order, canceled, cancel_asks_exchange_iff_numbered Sample.setup
    Sample.engine [] _ member errand canceled⟩

/-- The answer to the placing of the sample order is lost.  The order is canceled here all the same,
while the exchange, which is never asked to cancel it, goes on holding it open. -/
theorem sample_cancel_leaves_order_open :
    (reached Sample.setup Sample.engine [] (Sample.submitted Sample.lost)).held =
        [⟨"x-1", "c-1", "BTCUSDT"⟩] ∧
    (reached Sample.setup Sample.engine [] (Sample.withdrawn Sample.lost)).held =
        [⟨"x-1", "c-1", "BTCUSDT"⟩] ∧
    (reached Sample.setup Sample.engine [] (Sample.withdrawn Sample.lost)).pursuits.map
        (fun pursuit => (pursuit.errand, pursuit.canceledOrder?.map (·.status))) =
      [(.submit "o-1" Sample.start, none),
        (.cancel "o-1" "a-1" none Sample.start, some .canceled)] ∧
    (reached Sample.setup Sample.engine [] (Sample.withdrawn Sample.lost)).engine.talk.calls =
        [.placeOrder ⟨"c-1", "BTCUSDT", .buy, .limit, Sample.units 2, some (Sample.units 100)⟩] := by
  decide +kernel

end Trading

end SpotSettlement
