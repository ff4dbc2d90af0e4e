import SpotSettlement.Engine.Reconciliation
import SpotSettlement.Proofs.Engine.Activities

namespace SpotSettlement

/-! # What a cycle hears

What a cycle is told depends on the answers of the exchange alone, and not on when it asks, nor on
what it does with them meanwhile.
-/

namespace Setup

/-- The trades of instruments, as the exchange tells of them. -/
def hearTrades (setup : Setup) (since : Instant) :
    List String → ExceptT ExchangeError (StateM ExchangeTalk) (List ExchangeTrade)
  | [] => return []
  | instrument :: rest => do
    let trades ← setup.hear (.recentTrades instrument since) ExchangeAnswer.trades?
    let others ← setup.hearTrades since rest
    return trades ++ others

/-- The open orders and the trades that a cycle asks for. -/
def hearCycle (setup : Setup) (now : Instant) :
    ExceptT ExchangeError (StateM ExchangeTalk) (List ExchangeOrder × List ExchangeTrade) := do
  let openOrders ← setup.hear .openOrders ExchangeAnswer.orders?
  let trades ← setup.hearTrades (now.before setup.lookback) (setup.instrumentsOf openOrders)
  return (openOrders, trades)

def told (setup : Setup) (now : Instant) (talk : ExchangeTalk) :
    Except ExchangeError (List ExchangeOrder × List ExchangeTrade) :=
  ((setup.hearCycle now).run.run talk).1

end Setup

/-- The exchange is going to answer the same in both talks. -/
def ExchangeTalk.Alike (talk other : ExchangeTalk) : Prop :=
  talk.answers = other.answers ∧ talk.silence = other.silence

/-- Two questions, the one heard in one talk and the other in another, get the same answer, and the
exchange goes on alike. -/
def HeardAlike {α : Type} (heard other : Except ExchangeError α × ExchangeTalk) : Prop :=
  heard.1 = other.1 ∧ heard.2.Alike other.2

section Hearing

variable {α β : Type} {talk other next : ExchangeTalk}
  {x : ExceptT ExchangeError (StateM ExchangeTalk) α}
  {f : α → ExceptT ExchangeError (StateM ExchangeTalk) β}

theorem heard_bind_of_ok {a : α} (heard : x.run.run talk = (.ok a, next)) :
    (x >>= f).run.run talk = (f a).run.run next := by
  rw [ExceptT.run_bind, StateT.run_bind, heard]
  rfl

theorem heard_bind_of_error {error : ExchangeError}
    (heard : x.run.run talk = (.error error, next)) :
    (x >>= f).run.run talk = (.error error, next) := by
  rw [ExceptT.run_bind, StateT.run_bind, heard]
  rfl

theorem heard_map (told : α → β) :
    ((do return told (← x)).run.run talk).1 = (x.run.run talk).1.map told := by
  rw [ExceptT.run_bind, StateT.run_bind]
  obtain ⟨answer, next⟩ := x.run.run talk
  cases answer <;> rfl

theorem ExchangeTalk.ask_alike (alike : talk.Alike other) (call again : ExchangeCall)
    (fits : ExchangeAnswer → Option α) :
    HeardAlike (talk.ask call fits) (other.ask again fits) := by
  obtain ⟨answers, silence⟩ := alike
  unfold ask
  rw [answers, silence]
  cases other.answers.head? with
  | none => exact ⟨rfl, rfl, rfl⟩
  | some answer =>
      cases answer <;> dsimp only
      case failure => exact ⟨rfl, rfl, rfl⟩
      all_goals cases fits _ <;> exact ⟨rfl, rfl, rfl⟩

theorem heardAlike_bind {x y : ExceptT ExchangeError (StateM ExchangeTalk) α}
    {f g : α → ExceptT ExchangeError (StateM ExchangeTalk) β}
    (first : HeardAlike (x.run.run talk) (y.run.run other))
    (rest : ∀ a {talk other}, talk.Alike other →
      HeardAlike ((f a).run.run talk) ((g a).run.run other)) :
    HeardAlike ((x >>= f).run.run talk) ((y >>= g).run.run other) := by
  simp only [ExceptT.run_bind, StateT.run_bind]
  generalize x.run.run talk = heard at *
  generalize y.run.run other = again at *
  obtain ⟨answer, talk⟩ := heard
  obtain ⟨_, other⟩ := again
  obtain ⟨rfl, alike⟩ := first
  cases answer with
  | ok a => exact rest a alike
  | error error => exact ⟨rfl, alike⟩

namespace Setup

variable {setup : Setup} {now later : Instant}

theorem retrying_alike (call again : ExchangeCall) (fits : ExchangeAnswer → Option α)
    (remaining : Nat) (backoff : Backoff) (first : Option ExchangeError)
    (alike : talk.Alike other) :
    HeardAlike ((retrying (fun _ => pure ()) (asking call fits) remaining backoff first).run talk)
      ((retrying (fun _ => pure ()) (asking again fits) remaining backoff first).run other) := by
  induction remaining using Nat.strongRecOn generalizing talk other backoff first with
  | ind remaining ih =>
      have once := ExchangeTalk.ask_alike alike call again fits
      rw [retrying_run, retrying_run, asking_run, asking_run]
      generalize talk.ask call fits = heard at *
      generalize other.ask again fits = reheard at *
      obtain ⟨answer, talk⟩ := heard
      obtain ⟨_, other⟩ := reheard
      obtain ⟨rfl, alike⟩ := once
      cases answer with
      | ok value => exact ⟨rfl, alike⟩
      | error error =>
          dsimp only
          split
          · exact ⟨rfl, alike⟩
          · cases remaining with
            | zero => exact ⟨rfl, alike⟩
            | succ fewer =>
                dsimp only
                cases backoff.after error.retryAfter with
                | none => exact ⟨rfl, alike⟩
                | some next => exact ih fewer (Nat.lt_succ_self fewer) next.2 _ alike

theorem hear_alike (call again : ExchangeCall) (fits : ExchangeAnswer → Option α)
    (alike : talk.Alike other) :
    HeardAlike ((setup.hear call fits).run.run talk) ((setup.hear again fits).run.run other) :=
  retrying_alike call again fits _ _ _ alike

theorem hearTrades_alike (since afterwards : Instant) (instruments : List String)
    (alike : talk.Alike other) :
    HeardAlike ((setup.hearTrades since instruments).run.run talk)
      ((setup.hearTrades afterwards instruments).run.run other) := by
  induction instruments generalizing talk other with
  | nil => exact ⟨rfl, alike⟩
  | cons instrument rest ih =>
      refine heardAlike_bind (hear_alike _ _ _ alike) fun trades _ _ alike => ?_
      exact heardAlike_bind (ih alike) fun others _ _ alike => ⟨rfl, alike⟩

/-- If the exchange gives the same answers, a cycle is told the same. -/
theorem told_alike (alike : talk.Alike other) : setup.told now talk = setup.told later other := by
  have heard : HeardAlike ((setup.hearCycle now).run.run talk)
      ((setup.hearCycle later).run.run other) := by
    refine heardAlike_bind (hear_alike _ _ _ alike) fun openOrders _ _ alike => ?_
    exact heardAlike_bind (hearTrades_alike _ _ _ alike) fun trades _ _ alike => ⟨rfl, alike⟩
  exact heard.1

end Setup

end Hearing

end SpotSettlement
