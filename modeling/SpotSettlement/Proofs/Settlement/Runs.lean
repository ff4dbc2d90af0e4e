import SpotSettlement.Proofs.Settlement.Steps

namespace SpotSettlement

/-! # Runs

A run is a list of requests, done one after the other: amounts are put into balances, and settlement
is called, each time under terms and at an instant of its own.  A call that fails leaves the store
as it was, so a call takes one step whatever becomes of it.
-/

open Decimal

inductive Call where
  | create (command : OrderCommand)
  | acknowledge (orderId exchange exchangeOrderId : String) (exchangeClientOrderId : Option String)
  | cancel (orderId account : String) (reason : Option String)
  | reject (orderId reason : String)
  | fill (report : ExecutionReport)
  | status (report : StatusReport)
  deriving DecidableEq

namespace Call

def apply (call : Call) (terms : Terms) (now : Instant) (store : Store) : Store :=
  match call with
  | .create command => (store.perform (terms.createOrder command now)).2
  | .acknowledge orderId exchange exchangeOrderId exchangeClientOrderId =>
    (store.perform (terms.acknowledgeOrder orderId exchange exchangeOrderId exchangeClientOrderId
      now)).2
  | .cancel orderId account reason =>
    (store.perform (terms.cancelOrder orderId account reason now)).2
  | .reject orderId reason => (store.perform (terms.rejectOrder orderId reason now)).2
  | .fill report => (store.perform (terms.processFill report now)).2
  | .status report => (store.perform (terms.processStatus report now)).2

def report? : Call → Option ExecutionReport
  | .fill report => some report
  | _ => none

def arithmetic (call : Call) (terms : Terms) (now : Instant) (store : Store) : List Operation :=
  match call with
  | .create command => terms.createArithmetic command store now
  | .acknowledge .. => []
  | .cancel orderId account _ =>
    Terms.closeArithmetic (store.order? orderId) (·.cancel account now) store now
  | .reject orderId _ => Terms.closeArithmetic (store.order? orderId) (·.reject now) store now
  | .fill report => terms.reportArithmetic report store now
  | .status report =>
    Terms.statusArithmetic (store.resolveOrder? report.exchange report.exchangeOrderId
      report.clientOrderId) report store now

end Call

/-- A request: to add to what an account has available, or to call settlement. -/
inductive Request where
  | seed (account asset : String) (amount : Decimal) (now : Instant)
  | settle (call : Call) (terms : Terms) (now : Instant)

namespace Request

def apply (request : Request) (store : Store) : Store :=
  match request with
  | .seed account asset amount now =>
    (store.perform (Store.seedBalance account asset amount now)).2
  | .settle call terms now => call.apply terms now store

def arithmetic (request : Request) (store : Store) : List Operation :=
  match request with
  | .seed account asset amount now => [.add (store.balanceOf account asset now).available amount]
  | .settle call terms now => call.arithmetic terms now store

/-- Nothing is taken from what an account has available under the name of seeding it. -/
def Nonnegative : Request → Prop
  | .seed _ _ amount _ => amount.isNegative = false
  | .settle .. => True

instance : DecidablePred Nonnegative
  | .seed _ _ amount _ => inferInstanceAs (Decidable (amount.isNegative = false))
  | .settle .. => inferInstanceAs (Decidable True)

end Request

namespace Store

variable {store : Store} {account asset : String} {amount : Decimal} {now : Instant}

def afterAll (store : Store) (run : List Request) : Store :=
  run.foldl (fun store request => request.apply store) store

/-- The store that a run leads to from an empty one. -/
def reached (run : List Request) : Store := ({} : Store).afterAll run

def arithmetic (store : Store) : List Request → List Operation
  | [] => []
  | request :: rest => request.arithmetic store ++ (request.apply store).arithmetic rest

/-- No request of the run is at fault, each taken where the run has come to. -/
def Avoids (store : Store) (fault : Request → Store → Prop) : List Request → Prop
  | [] => True
  | request :: rest => ¬fault request store ∧ (request.apply store).Avoids fault rest

instance decidableAvoids (store : Store) (fault : Request → Store → Prop)
    [∀ request store, Decidable (fault request store)] :
    (run : List Request) → Decidable (store.Avoids fault run)
  | [] => inferInstanceAs (Decidable True)
  | request :: rest =>
    have := decidableAvoids (request.apply store) fault rest
    inferInstanceAs (Decidable (_ ∧ _))

theorem afterAll_cons (store : Store) (request : Request) (rest : List Request) :
    store.afterAll (request :: rest) = (request.apply store).afterAll rest := rfl

theorem afterAll_append (store : Store) (first second : List Request) :
    store.afterAll (first ++ second) = (store.afterAll first).afterAll second :=
  List.foldl_append

theorem arithmetic_append (store : Store) (first second : List Request) :
    store.arithmetic (first ++ second) =
      store.arithmetic first ++ (store.afterAll first).arithmetic second := by
  induction first generalizing store with
  | nil => rfl
  | cons request rest ih =>
      rw [List.cons_append, arithmetic, arithmetic, ih, afterAll_cons, List.append_assoc]

theorem seedBalance_ok {store after : Store} {u : Unit} :
    (seedBalance account asset amount now).run store = .ok (u, after) ↔
      ∃ available, (store.balanceOf account asset now).available.add amount = .ok available ∧
        store.withBalance { store.balanceOf account asset now with available, updatedAt := now } =
          after := by
  have overwritten : ∀ available, (store.withBalance (store.balanceOf account asset now)).withBalance
      { store.balanceOf account asset now with available, updatedAt := now } =
      store.withBalance { store.balanceOf account asset now with available, updatedAt := now } :=
    fun _ => withBalance_withBalance ⟨rfl, rfl⟩
  simp only [seedBalance, Work.bind_ok, claimBalance_ok, Work.lift_ok, saveBalance_ok]
  constructor
  · rintro ⟨_, _, ⟨rfl, rfl⟩, available, _, ⟨added, rfl⟩, rfl⟩
    exact ⟨available, added, (overwritten available).symm⟩
  · rintro ⟨available, added, rfl⟩
    exact ⟨_, _, ⟨rfl, rfl⟩, available, _, ⟨added, rfl⟩, overwritten available⟩

/-- Seeding adds to the available part of one balance, or does nothing if the sum does not fit. -/
theorem seed_cases (store : Store) (account asset : String) (amount : Decimal) (now : Instant) :
    (∃ overflow, (store.balanceOf account asset now).available.add amount = .error overflow ∧
      (Request.seed account asset amount now).apply store = store) ∨
    ∃ available, (store.balanceOf account asset now).available.add amount = .ok available ∧
      (Request.seed account asset amount now).apply store = store.withBalance
        { store.balanceOf account asset now with available, updatedAt := now } := by
  unfold Request.apply
  cases added : (store.balanceOf account asset now).available.add amount with
  | error overflow =>
      refine .inl ⟨overflow, rfl, ?_⟩
      cases outcome : (store.perform (seedBalance account asset amount now)).1 with
      | error failure => exact perform_error outcome
      | ok value =>
          obtain ⟨available, fits, -⟩ := seedBalance_ok.mp (perform_ok outcome)
          rw [added] at fits
          contradiction
  | ok available =>
      have done : (seedBalance account asset amount now).run store = .ok ((), _) :=
        seedBalance_ok.mpr ⟨available, added, rfl⟩
      exact .inr ⟨available, rfl, congrArg Prod.snd (perform_ok_iff.mpr done)⟩

theorem seed_tables (store : Store) (account asset : String) (amount : Decimal) (now : Instant) :
    ∃ balances, (Request.seed account asset amount now).apply store = { store with balances } := by
  obtain ⟨-, -, same⟩ | ⟨available, -, written⟩ := store.seed_cases account asset amount now
  · exact ⟨_, same⟩
  · exact ⟨_, written⟩

end Store

theorem Call.effect (call : Call) (terms : Terms) (now : Instant) (store : Store) :
    terms.Effect now store call.report? (call.arithmetic terms now store)
      (call.apply terms now store) := by
  have performed : ∀ {α : Type} {work : Work α} {filling : Option ExecutionReport}
      {operations : List Operation},
      (∀ value after, work.run store = .ok (value, after) →
        terms.Effect now store filling operations after) →
        terms.Effect now store filling operations (store.perform work).2 :=
    Store.perform_keeps (terms.Effect now store _ _) (.idle _ _)
  cases call with
  | create command => exact performed fun _ _ done => .created (Terms.createOrder_creates done)
  | acknowledge orderId exchange exchangeOrderId exchangeClientOrderId =>
      exact performed fun _ _ => Terms.acknowledgeOrder_effect
  | cancel orderId account reason => exact performed fun _ _ => Terms.cancelOrder_effect
  | reject orderId reason => exact performed fun _ _ => Terms.rejectOrder_effect
  | fill report => exact performed fun _ _ => Terms.processFill_effect
  | status report => exact performed fun _ _ => Terms.processStatus_effect

/-- A call takes one step. -/
theorem Call.step (call : Call) (terms : Terms) (now : Instant) (store : Store) :
    store.Step call.report? (call.arithmetic terms now store) (call.apply terms now store) :=
  (call.effect terms now store).step

namespace Store

variable {store : Store}

/-- What holds at the start of a run, and is kept by every request of it, holds at its end. -/
theorem afterAll_induction (holds : Store → Prop) {run : List Request} (start : holds store)
    (kept : ∀ request ∈ run, ∀ store, holds store → holds (request.apply store)) :
    holds (store.afterAll run) := by
  induction run generalizing store with
  | nil => exact start
  | cons request rest ih =>
      rw [afterAll_cons]
      apply ih (kept request List.mem_cons_self store start)
      intro later member
      exact kept later (List.mem_cons_of_mem request member)

/-- What does not depend on balances, and is kept by every step, is kept by every request. -/
theorem apply_induction (holds : Store → Prop) (request : Request) (start : holds store)
    (seed : ∀ {store : Store} (balances : List WalletBalance), holds store →
      holds { store with balances })
    (step : ∀ {store after : Store} {filling : Option ExecutionReport}
      {operations : List Operation}, store.Step filling operations after → holds store →
        holds after) : holds (request.apply store) := by
  cases request with
  | seed account asset amount now =>
      obtain ⟨balances, written⟩ := store.seed_tables account asset amount now
      rw [written]
      exact seed balances start
  | settle call terms now => exact step (call.step terms now store) start

end Store

namespace Sample

def start : Instant := default

def terms : Terms := ⟨⟨[("BTCUSDT", ⟨"BTC", "USDT"⟩)], [], ["USDT"]⟩, "spot"⟩

def purchase : OrderCommand where
  orderId := some "o-1"
  account := "a-1"
  instrument := "BTCUSDT"
  side := .buy
  orderType := .limit
  quantity := units 2
  limitPrice := some (units 100)
  clientOrderId := some "c-1"
  exchange := "binance"

/-- The report of a trade of one unit. -/
def trade (reportedStatus : Option OrderStatus) : ExecutionReport where
  exchange := "binance"
  instrument := "BTCUSDT"
  tradeId := "t-1"
  exchangeOrderId := none
  clientOrderId := some "c-1"
  side := .buy
  quantity := units 1
  price := units 90
  feeAsset := some "USDT"
  fee := units 1
  reportedStatus
  executedAt := start

/-- The sample runs: an account buys two bitcoin for at most 100 each, and one is bought for 90, at
a fee of 1, before the rest of the order is canceled. -/
def placed : List Request :=
  [.seed "a-1" "USDT" (units 1000) start, .settle (.create purchase) terms start]

def acknowledged : List Request :=
  placed ++ [.settle (.acknowledge "o-1" "binance" "x-1" none) terms start]

def traded : List Request := acknowledged ++ [.settle (.fill (trade none)) terms start]

/-- The rest of the order is canceled. -/
def canceled : List Request := traded ++ [.settle (.cancel "o-1" "a-1" none) terms start]

end Sample

end SpotSettlement
