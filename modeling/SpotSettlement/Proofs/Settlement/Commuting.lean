import Mathlib.Data.List.Find
import SpotSettlement.Proofs.Settlement.FillEffects

namespace SpotSettlement

/-! # Fills commute

Two fills that are applied one after the other leave what they leave in the other order: the same
progress of orders, the same funds, the same executions and the same bookings.  Fills of one order
share its reservation, and the earlier of them leaves the order open in either order.
-/

open Decimal

namespace Store

variable {store after : Store} {order moved found : Order} {exchange : String}
  {exchangeOrderId clientOrderId : Option String} {id : String}

/-- The order that is found once another has taken its place, if it is the one replaced. -/
def replacing (moved order : Order) : Order := if order.id = moved.id then moved else order

theorem order?_replaceOrder (orders : after.orders = replaceOrder moved store.orders) (id : String) :
    after.order? id = (store.order? id).map (replacing moved) := by
  have replaced : after.orders = store.orders.map (replacing moved) := by
    simp [orders, replaceOrder, replacing]
  rw [order?, replaced, List.find?_map, order?]
  congr 1
  apply List.find?_congr
  intro row _
  by_cases same : row.id = moved.id <;> simp [replacing, same]

/-- An order that keeps its names is found by them as before. -/
theorem resolveOrder?_replaceOrder (orders : after.orders = replaceOrder moved store.orders)
    (unique : (store.orders.map (·.id)).Nodup) (member : order ∈ store.orders)
    (sameId : moved.id = order.id) (sameExchange : moved.exchange = order.exchange)
    (sameNumber : moved.exchangeOrderId = order.exchangeOrderId)
    (sameClientId : moved.exchangeClientOrderId = order.exchangeClientOrderId)
    (sameTold : moved.outboundClientOrderId = order.outboundClientOrderId) :
    after.resolveOrder? exchange exchangeOrderId clientOrderId =
      (store.resolveOrder? exchange exchangeOrderId clientOrderId).map (replacing moved) := by
  have replaced : after.orders = store.orders.map (replacing moved) := by
    simp [orders, replaceOrder, replacing]
  have finds : ∀ selects : Order → Bool, selects moved = selects order →
      after.orders.find? selects = (store.orders.find? selects).map (replacing moved) := by
    intro selects same
    rw [replaced, List.find?_map]
    congr 1
    apply List.find?_congr
    intro row present
    rw [Function.comp_apply, replacing]
    split
    · next here => rw [List.inj_on_of_nodup_map unique present member (here.trans sameId), same]
    · rfl
  have byNumber : after.orderByExchangeId? exchange =
      Option.map (replacing moved) ∘ store.orderByExchangeId? exchange := by
    funext number
    exact finds _ (by rw [sameExchange, sameNumber])
  have byClientId : after.orderByClientId? exchange =
      Option.map (replacing moved) ∘ store.orderByClientId? exchange := by
    funext clientId
    exact finds _ (by rw [sameExchange, sameClientId, sameTold])
  rw [resolveOrder?, byNumber, byClientId, resolveOrder?, Option.map_or, Option.map_bind,
    Option.map_bind]

/-- An order that is no longer new keeps its names. -/
theorem resolveOrder?_of_advances (orders : after.orders = replaceOrder moved store.orders)
    (unique : (store.orders.map (·.id)).Nodup) (member : order ∈ store.orders)
    (advances : order.Advances moved) (settled : order.status ≠ .new) :
    after.resolveOrder? exchange exchangeOrderId clientOrderId =
      (store.resolveOrder? exchange exchangeOrderId clientOrderId).map (replacing moved) := by
  obtain ⟨sameExchange, sameNumber, sameClientId⟩ := advances.named settled
  exact resolveOrder?_replaceOrder orders unique member advances.id sameExchange sameNumber
    sameClientId advances.outboundClientOrderId

/-- How far an order has come. -/
def standing (store : Store) (id : String) : Option (OrderStatus × ℚ) :=
  (store.order? id).map fun order => (order.status, order.filled.value)

def parts (store : Store) (account asset : String) : Option (ℚ × ℚ) :=
  (store.balance? account asset).map fun balance =>
    (balance.available.value, balance.reserved.value)

theorem parts_eq {other : Store} {account asset : String}
    (rows : (store.balance? account asset).isSome = true ↔
      (other.balance? account asset).isSome = true)
    (worth : store.worth account asset = other.worth account asset)
    (reserved : store.reservedOf account asset = other.reservedOf account asset) :
    store.parts account asset = other.parts account asset := by
  rw [Store.worth, Store.worth] at worth
  rw [Store.reservedOf, Store.reservedOf] at reserved
  unfold parts
  cases left : store.balance? account asset <;> cases right : other.balance? account asset <;>
    simp only [left, right] at rows worth reserved
  case none.none => rfl
  case none.some => simp at rows
  case some.none => simp at rows
  case some.some before after =>
    simp only [WalletBalance.worth, reserved, add_left_inj] at worth
    simp only [Option.map_some, worth, reserved]

end Store

/-- What an execution says, apart from its identifier. -/
def Execution.unnumbered (execution : Execution) : Execution := { execution with id := "" }

theorem Execution.unnumbered_ofReport (id : String) (report : ExecutionReport)
    (orderId account : String) :
    (ofReport id report orderId account).unnumbered = ofReport "" report orderId account := rfl

/-- Two stores say the same of the progress of orders and of funds, apart from moments. -/
structure Store.Concurs (store other : Store) : Prop where
  standing : ∀ id, store.standing id = other.standing id
  parts : ∀ account asset, store.parts account asset = other.parts account asset
  holds : store.holds = other.holds

/-- Two stores say the same of orders, funds, executions and bookings, apart from moments and
generated identifiers. -/
structure Store.Agrees (store other : Store) : Prop extends store.Concurs other where
  executions : (store.executions.map (·.unnumbered)).Perm (other.executions.map (·.unnumbered))
  ledgerNet : ∀ account asset, store.ledgerNet account asset = other.ledgerNet account asset

namespace Hold

variable {orderId other : String} {gain gained : String → ℚ} {completes completed : Bool}

theorem drawn_comm (hold : Hold) (orderId : String) (gain gained : String → ℚ) :
    (hold.drawn orderId gain).drawn orderId gained =
      (hold.drawn orderId gained).drawn orderId gain := by
  by_cases mine : hold.OpenFor orderId
  · have still : ∀ amount : ℚ, ({ hold with amount } : Hold).OpenFor orderId := fun _ => mine
    simp only [drawn, if_pos mine, if_pos (still _), max_sub_max_sub (le_max_left 0 _)]
    rw [add_comm]
  · simp only [drawn, if_neg mine]

theorem filled_of_ne (hold : Hold) (apart : hold.orderId ≠ orderId) :
    hold.filled orderId gain completes = hold := by
  have none : ¬hold.OpenFor orderId := fun mine => apart mine.1
  cases completes <;> simp [filled, drawn, closed, none]

theorem filled_orderId (hold : Hold) :
    (hold.filled orderId gain completes).orderId = hold.orderId := by
  unfold filled closed drawn
  split <;> split <;> first | rfl | (split <;> rfl)

/-- Fills of different orders draw on different reservations. -/
theorem filled_comm (hold : Hold) (apart : orderId ≠ other) :
    (hold.filled orderId gain completes).filled other gained completed =
      (hold.filled other gained completed).filled orderId gain completes := by
  by_cases mine : hold.orderId = orderId
  · have elsewhere : hold.orderId ≠ other := mine ▸ apart
    have after : (hold.filled orderId gain completes).orderId ≠ other := by rwa [filled_orderId]
    rw [filled_of_ne hold elsewhere, filled_of_ne _ after]
  · have after : (hold.filled other gained completed).orderId ≠ orderId := by rwa [filled_orderId]
    rw [filled_of_ne hold mine, filled_of_ne _ after]

end Hold

namespace Store.FilledBy

variable {store first second : Store} {order moved : Order} {report : ExecutionReport}
  {gain : String → ℚ}

theorem ofQuantities_congr {filled other quantity : Decimal} (same : filled.value = other.value) :
    OrderStatus.ofQuantities filled quantity = OrderStatus.ofQuantities other quantity := by
  have complete : (filled == quantity) = (other == quantity) :=
    Bool.eq_iff_iff.mpr (by rw [beq_iff_value, beq_iff_value, same])
  have positive : filled.isPositive = other.isPositive :=
    Bool.eq_iff_iff.mpr (by rw [isPositive_iff_value, isPositive_iff_value, same])
  rw [OrderStatus.ofQuantities, complete, positive, OrderStatus.ofQuantities]

/-- A fill is applied to an order that is acknowledged. -/
theorem settled (filled : store.FilledBy first order moved report gain) : order.status ≠ .new := by
  intro new
  have legal := filled.advances.legal
  rw [new] at legal
  obtain complete | partly := OrderStatus.ofQuantities_some filled.implied
  · rw [complete] at legal
    contradiction
  · rw [partly] at legal
    contradiction

theorem standing (filled : store.FilledBy first order moved report gain) (id : String) :
    first.standing id =
      if id = order.id then some (moved.status, moved.filled.value) else store.standing id := by
  rw [Store.standing, order?_replaceOrder filled.orders, Store.standing]
  cases lookup : store.order? id with
  | none =>
      have absent : id ≠ order.id := (order?_none lookup filled.member).symm
      rw [if_neg absent]
      rfl
  | some found =>
      have named := (order?_some lookup).2
      simp only [Option.map_some, replacing, named, filled.advances.id]
      split <;> rfl

/-- A report that finds an order finds it as the fill has left it. -/
theorem resolves (filled : store.FilledBy first order moved report gain)
    (unique : (store.orders.map (·.id)).Nodup) (other : ExecutionReport) :
    first.resolveOrder? other.exchange other.exchangeOrderId other.clientOrderId =
      (store.resolveOrder? other.exchange other.exchangeOrderId other.clientOrderId).map
        (replacing moved) :=
  resolveOrder?_of_advances filled.orders unique filled.member filled.advances filled.settled

variable {other : ExecutionReport} {gained : String → ℚ} {elsewhere after later : Store}
  {orderAgain movedAgain counter counterAgain movedCounter movedCounterAgain movedOther : Order}

/-- The progress that a fill makes depends on the order and the quantity. -/
theorem progress_eq (filled : store.FilledBy first order moved report gain)
    (refilled : elsewhere.FilledBy second order movedOther report gain) :
    moved.filled.value = movedOther.filled.value ∧ moved.status = movedOther.status := by
  have same := filled.filled.trans refilled.filled.symm
  have implied := filled.implied
  rw [ofQuantities_congr same, refilled.implied] at implied
  exact ⟨same, (Option.some.inj implied).symm⟩

/-- An order that can be filled further has taken in the whole quantity of its fill. -/
theorem filled_eq (filled : store.FilledBy first order moved report gain)
    (openStatus : moved.status.isTerminal = false) :
    moved.filled.value = order.filled.value + report.quantity.value := by
  have incomplete : moved.filled.value ≠ order.quantity.value := by
    intro complete
    have implied := filled.implied
    rw [OrderStatus.ofQuantities_eq_filled.mpr complete, Option.some.injEq] at implied
    rw [← implied] at openStatus
    contradiction
  rw [filled.filled] at incomplete ⊢
  exact (min_choice _ _).resolve_right incomplete

/-- Two fills in either order agree on funds, executions and bookings, whatever orders they are of,
if they agree on the progress of orders and on what is held. -/
theorem agrees (filled : store.FilledBy first order moved report gain)
    (thenCounter : first.FilledBy after counterAgain movedCounterAgain other gained)
    (counterFilled : store.FilledBy second counter movedCounter other gained)
    (thenFilled : second.FilledBy later orderAgain movedAgain report gain)
    (sameOrder : orderAgain.id = order.id ∧ orderAgain.account = order.account)
    (sameCounter : counterAgain.id = counter.id ∧ counterAgain.account = counter.account)
    (standing : ∀ id, after.standing id = later.standing id) (holds : after.holds = later.holds)
    (balanced : after.Balanced) (otherBalanced : later.Balanced) : after.Agrees later where
  standing
  holds
  parts account asset := by
    apply parts_eq
    · rw [thenCounter.rows, filled.rows, thenFilled.rows, counterFilled.rows, sameOrder.2,
        sameCounter.2]
      tauto
    · rw [thenCounter.worth, filled.worth, thenFilled.worth, counterFilled.worth, sameOrder.2,
        sameCounter.2]
      ring
    · rw [balanced, otherBalanced, heldFor_eq_holds, heldFor_eq_holds, holds]
  executions := by
    rw [thenCounter.executions, filled.executions, thenFilled.executions,
      counterFilled.executions]
    have trade : (Terms.executionOf second orderAgain report).unnumbered =
        (Terms.executionOf store order report).unnumbered := by
      rw [Terms.executionOf, Execution.unnumbered_ofReport, sameOrder.1, sameOrder.2,
        Terms.executionOf, Execution.unnumbered_ofReport]
    have otherTrade : (Terms.executionOf first counterAgain other).unnumbered =
        (Terms.executionOf store counter other).unnumbered := by
      rw [Terms.executionOf, Execution.unnumbered_ofReport, sameCounter.1, sameCounter.2,
        Terms.executionOf, Execution.unnumbered_ofReport]
    simp only [List.map_append, List.map_singleton, List.append_assoc, trade, otherTrade]
    exact (List.Perm.swap _ _ []).append_left _
  ledgerNet account asset := by
    rw [thenCounter.ledgerNet, filled.ledgerNet, thenFilled.ledgerNet, counterFilled.ledgerNet,
      sameOrder.2, sameCounter.2]
    ring

/-- Fills of different orders commute. -/
theorem agrees_of_apart (filled : store.FilledBy first order moved report gain)
    (thenCounter : first.FilledBy after counter movedCounterAgain other gained)
    (counterFilled : store.FilledBy second counter movedCounter other gained)
    (thenFilled : second.FilledBy later order movedAgain report gain)
    (apart : order.id ≠ counter.id) (balanced : after.Balanced) (otherBalanced : later.Balanced) :
    after.Agrees later := by
  obtain ⟨filledEq, statusEq⟩ := filled.progress_eq thenFilled
  obtain ⟨counterFilledEq, counterStatusEq⟩ := counterFilled.progress_eq thenCounter
  refine agrees filled thenCounter counterFilled thenFilled ⟨rfl, rfl⟩ ⟨rfl, rfl⟩ ?_ ?_ balanced
    otherBalanced
  · intro id
    rw [thenCounter.standing, filled.standing, thenFilled.standing, counterFilled.standing,
      filledEq, statusEq, counterFilledEq, counterStatusEq]
    by_cases mine : id = order.id
    · rw [if_pos mine, if_pos mine, if_neg (mine ▸ apart)]
    · rw [if_neg mine, if_neg mine]
  · rw [thenCounter.holds, filled.holds, thenFilled.holds, counterFilled.holds, List.map_map,
      List.map_map, statusEq, counterStatusEq]
    exact List.map_congr_left fun hold _ => hold.filled_comm apart

/-- Fills of one order commute: neither completes it if the other comes after it. -/
theorem agrees_of_shared (filled : store.FilledBy first order moved report gain)
    (thenCounter : first.FilledBy after moved movedCounterAgain other gained)
    (counterFilled : store.FilledBy second order movedCounter other gained)
    (thenFilled : second.FilledBy later movedCounter movedAgain report gain)
    (balanced : after.Balanced) (otherBalanced : later.Balanced) : after.Agrees later := by
  have openStatus := OrderStatus.not_terminal_of_canBecome thenCounter.advances.legal
  have counterOpen := OrderStatus.not_terminal_of_canBecome thenFilled.advances.legal
  have quantity : moved.quantity = order.quantity := by rw [filled.advances.kept]
  have counterQuantity : movedCounter.quantity = order.quantity := by
    rw [counterFilled.advances.kept]
  have filledEq : movedCounterAgain.filled.value = movedAgain.filled.value := by
    rw [thenCounter.filled, thenFilled.filled, filled.filled_eq openStatus,
      counterFilled.filled_eq counterOpen, quantity, counterQuantity, add_right_comm]
  have statusEq : movedCounterAgain.status = movedAgain.status := by
    have implied := thenCounter.implied
    rw [quantity, ofQuantities_congr filledEq, ← counterQuantity, thenFilled.implied] at implied
    exact (Option.some.inj implied).symm
  have names := filled.advances
  have counterNames := counterFilled.advances
  refine agrees filled thenCounter counterFilled thenFilled ⟨counterNames.id, counterNames.account⟩
    ⟨names.id, names.account⟩ ?_ ?_ balanced otherBalanced
  · intro id
    rw [thenCounter.standing, filled.standing, thenFilled.standing, counterFilled.standing,
      filledEq, statusEq, names.id, counterNames.id]
    by_cases mine : id = order.id
    · rw [if_pos mine, if_pos mine]
    · simp only [if_neg mine]
  · have incomplete : (moved.status == .filled) = false := by
      cases status : moved.status <;> simp_all [OrderStatus.isTerminal]
    have counterIncomplete : (movedCounter.status == .filled) = false := by
      cases status : movedCounter.status <;> simp_all [OrderStatus.isTerminal]
    rw [thenCounter.holds, filled.holds, thenFilled.holds, counterFilled.holds, List.map_map,
      List.map_map, statusEq, incomplete, counterIncomplete, names.id, counterNames.id]
    refine List.map_congr_left fun hold _ => ?_
    have drawn := hold.drawn_comm order.id gain gained
    simp [Hold.filled, drawn]

end Store.FilledBy

namespace Sample

/-- The other unit of the sample order is bought for less. -/
def laterTrade : ExecutionReport := { trade none with tradeId := "t-2", price := units 80 }

end Sample

namespace Store

def inserts (store : Store) (terms : Terms) (report : ExecutionReport) (now : Instant) : Bool :=
  match (store.perform (terms.processFill report now)).1 with
  | .ok (.inserted ..) => true
  | _ => false

/-- A reported fill that is applied finds its order, and its trade has not been recorded. -/
theorem inserts_cases {store : Store} {terms : Terms} {report : ExecutionReport} {now : Instant}
    (inserted : store.inserts terms report now = true) :
    ∃ order outcome, report.validate = .ok () ∧ store.unitOutage = none ∧
      store.resolveOrder? report.exchange report.exchangeOrderId report.clientOrderId =
        some order ∧
      store.hasExecution (report.exchange, report.instrument, report.tradeId) = false ∧
      (terms.processFill report now).run store =
        .ok (outcome, (Call.fill report).apply terms now store) ∧
      terms.Fills order report now store outcome ((Call.fill report).apply terms now store) := by
  unfold inserts at inserted
  split at inserted
  · next executionId orderId status applied =>
      have done := perform_ok applied
      obtain ⟨valid, available, ⟨-, unmapped, -⟩ |
        ⟨order, resolved, ⟨-, duplicate, -⟩ | ⟨fresh, fills⟩⟩⟩ := Terms.processFill_cases done
      · contradiction
      · contradiction
      · exact ⟨order, _, valid, available, resolved, fresh, done, fills⟩
  · contradiction

/-- The run that ends with a reported fill. -/
def reporting (terms : Terms) (run : List Request) (report : ExecutionReport) (now : Instant) :
    List Request :=
  run ++ [.settle (.fill report) terms now]

theorem reached_reporting (terms : Terms) (run : List Request) (report : ExecutionReport)
    (now : Instant) : reached (reporting terms run report now) =
      (Call.fill report).apply terms now (reached run) :=
  afterAll_append {} run _

theorem reporting_nonnegative {run : List Request}
    (nonneg : ∀ request ∈ run, request.Nonnegative) (terms : Terms) (report : ExecutionReport)
    (now : Instant) : ∀ request ∈ reporting terms run report now, request.Nonnegative := by
  intro request member
  obtain earlier | last := List.mem_append.mp member
  · exact nonneg request earlier
  · rw [List.mem_singleton.mp last]
    trivial

theorem reporting_exact_iff {terms : Terms} {run : List Request} {report : ExecutionReport}
    {now : Instant} : Exact (({} : Store).arithmetic (reporting terms run report now)) ↔
      Exact (({} : Store).arithmetic run) ∧
        Exact ((Call.fill report).arithmetic terms now (reached run)) := by
  rw [reporting, arithmetic_append, exact_append_iff, arithmetic, exact_append_iff]
  exact and_congr_right fun _ => and_iff_left (List.forall_mem_nil _)

/-- A fill that is applied at the end of a run. -/
theorem reached_filledBy {run : List Request} {terms : Terms} {report : ExecutionReport}
    {now : Instant} (nonneg : ∀ request ∈ run, request.Nonnegative)
    (unnamed : report.reportedStatus = none)
    (inserted : (reached run).inserts terms report now = true)
    (exact : Exact (({} : Store).arithmetic (reporting terms run report now))) :
    ∃ order moved pair, (reached run).resolveOrder? report.exchange report.exchangeOrderId
        report.clientOrderId = some order ∧
      terms.catalog.assetPair report.instrument = some pair ∧
      (reached run).FilledBy (reached (reporting terms run report now)) order moved report
        (report.gain pair) := by
  obtain ⟨order, outcome, valid, -, resolved, fresh, -, fills⟩ := inserts_cases inserted
  obtain ⟨runExact, fillExact⟩ := reporting_exact_iff.mp exact
  have same : (Call.fill report).arithmetic terms now (reached run) =
      terms.fillArithmetic order report (reached run) now :=
    Terms.reportArithmetic_eq valid resolved fresh
  rw [same] at fillExact
  obtain ⟨moved, pair, listed, filled⟩ := fills.filledBy unnamed fillExact
    (afterAll_funded nonneg empty_funded) (reached_grounded run) (reached_balanced nonneg runExact)
    (Terms.resolveOrder?_mem resolved)
  refine ⟨order, moved, pair, resolved, listed, ?_⟩
  rw [reached_reporting]
  exact filled

/-- Two reported fills that come without a status, and are both applied in either order, leave
stores that agree on every order, balance and reservation, on the executions, and on what is booked
for every account. -/
theorem independent_fills_commute (run : List Request)
    (nonneg : ∀ request ∈ run, request.Nonnegative) (terms : Terms)
    {report other : ExecutionReport} (unnamed : report.reportedStatus = none)
    (otherUnnamed : other.reportedStatus = none) {first second third fourth : Instant}
    (inserted : (reached run).inserts terms report first = true)
    (thenOther : (reached (reporting terms run report first)).inserts terms other second = true)
    (otherInserted : (reached run).inserts terms other third = true)
    (thenInserted : (reached (reporting terms run other third)).inserts terms report fourth = true)
    (exact : Exact (({} : Store).arithmetic
      (reporting terms (reporting terms run report first) other second)))
    (otherExact : Exact (({} : Store).arithmetic
      (reporting terms (reporting terms run other third) report fourth))) :
    (reached (reporting terms (reporting terms run report first) other second)).Agrees
      (reached (reporting terms (reporting terms run other third) report fourth)) := by
  have withReport := reporting_nonnegative nonneg terms report first
  have withOther := reporting_nonnegative nonneg terms other third
  obtain ⟨order, moved, pair, resolved, listed, filled⟩ :=
    reached_filledBy nonneg unnamed inserted (reporting_exact_iff.mp exact).1
  obtain ⟨counter, movedCounter, otherPair, otherResolved, otherListed, counterFilled⟩ :=
    reached_filledBy nonneg otherUnnamed otherInserted (reporting_exact_iff.mp otherExact).1
  obtain ⟨counterAgain, movedCounterAgain, samePair, resolvedThen, listedThen, thenCounter⟩ :=
    reached_filledBy withReport otherUnnamed thenOther exact
  obtain ⟨orderAgain, movedAgain, sameOtherPair, resolvedLast, listedLast, thenFilled⟩ :=
    reached_filledBy withOther unnamed thenInserted otherExact
  obtain rfl := Option.some.inj (otherListed.symm.trans listedThen)
  obtain rfl := Option.some.inj (listed.symm.trans listedLast)
  have unique : ((reached run).orders.map (·.id)).Nodup :=
    (afterAll_identified empty_identified run).orders
  have balanced := reached_balanced (reporting_nonnegative withReport terms other second) exact
  have otherBalanced :=
    reached_balanced (reporting_nonnegative withOther terms report fourth) otherExact
  -- Each report finds the order that it finds at the start, as the other report has left it.
  rw [filled.resolves unique other, otherResolved, Option.map_some, Option.some.injEq]
    at resolvedThen
  rw [counterFilled.resolves unique report, resolved, Option.map_some, Option.some.injEq]
    at resolvedLast
  subst resolvedThen resolvedLast
  by_cases apart : order.id = counter.id
  · obtain rfl := List.inj_on_of_nodup_map unique filled.member counterFilled.member apart
    simp only [replacing, filled.advances.id, counterFilled.advances.id, if_true]
      at thenCounter thenFilled
    exact filled.agrees_of_shared thenCounter counterFilled thenFilled balanced otherBalanced
  · simp only [replacing, filled.advances.id, counterFilled.advances.id, if_neg apart,
      if_neg (Ne.symm apart)] at thenCounter thenFilled
    exact filled.agrees_of_apart thenCounter counterFilled thenFilled apart balanced otherBalanced

/-- The two fills that complete the sample order, which gives its reservation back with the later of
them. -/
theorem sample_fills_commute :
    (reached (reporting Sample.terms Sample.traded Sample.laterTrade Sample.start)).Agrees
      (reached (reporting Sample.terms (reporting Sample.terms Sample.acknowledged
        Sample.laterTrade Sample.start) (Sample.trade none) Sample.start)) ∧
    (reached (reporting Sample.terms Sample.traded Sample.laterTrade Sample.start)).standing "o-1" =
      some (.filled, 2) :=
  ⟨independent_fills_commute Sample.acknowledged (by decide +kernel) Sample.terms rfl rfl
    (by decide +kernel) (by decide +kernel) (by decide +kernel) (by decide +kernel)
    (by decide +kernel) (by decide +kernel), by decide +kernel⟩

end Store

end SpotSettlement
