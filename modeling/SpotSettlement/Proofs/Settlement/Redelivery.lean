import SpotSettlement.Proofs.Settlement.Awaiting
import SpotSettlement.Proofs.Settlement.Closing
import SpotSettlement.Proofs.Settlement.Names

namespace SpotSettlement

/-! # Acknowledgements and statuses that come again

The exchange gives an order its names once.  An acknowledgement that comes again is told by its
names, and changes nothing whether it is known or refused.  A reported status that was applied finds
the same order when it comes again, and finds nothing to do: an acknowledged order may then be found
by the number that the first report brought, and a status that gave way to what is filled gives way
again.
-/

open Decimal

namespace OrderStatus

variable {current after other : OrderStatus} {reported : Option OrderStatus}
  {prior filled quantity : Decimal}

/-- Of the current status nothing counts but what may follow it. -/
theorem next_congr (same : other.canBecome = current.canBecome)
    (given : current.next reported prior filled quantity = .ok after) :
    other.next reported prior filled quantity = .ok after := by
  unfold next at given ⊢
  rw [same]
  split at given
  · contradiction
  · next growing =>
      rw [if_neg growing]
      split at given
      · contradiction
      · next within =>
          rw [if_neg within]
          dsimp only at given ⊢
          split at given
          · next complete =>
              rw [if_pos complete]
              simp only [bind_ok_iff, checkTransition_ok, same] at given ⊢
              exact given
          · next unfinished =>
              rw [if_neg unfinished]
              split at given
              · exact given
              · split at given
                · exact given
                · contradiction

/-- A status that may become partially filled may become whatever a partially filled one may. -/
theorem canBecome_partiallyFilled (legal : current.canBecome .partiallyFilled = true) :
    OrderStatus.partiallyFilled.canBecome = current.canBecome := by
  cases current <;> first | rfl | exact absurd legal (by decide)

end OrderStatus

namespace Order

variable {order moved later : Order} {now : Instant} {transition : Transition}
  {reported : OrderStatus} {exchange exchangeOrderId : String}
  {exchangeClientOrderId : Option String}

/-- A reported status that was applied is nothing new to the order. -/
theorem applyReportedStatus_again (consistent : order.Consistent)
    (applied : order.applyReportedStatus reported now = .ok (some transition, moved))
    (later : Instant) : moved.applyReportedStatus reported later = .ok (none, moved) := by
  obtain ⟨next, follows, -, rfl⟩ := applyReportedStatus_ok applied
  by_cases same : reported = next
  · exact if_pos same
  · -- What is filled has decided, so the order is partially filled now.
    obtain ⟨-, -, -, legal, implied | ⟨-, asked, -⟩⟩ := OrderStatus.next_ok follows
    · obtain rfl | rfl := OrderStatus.ofQuantities_some implied
      · rw [consistent.complete.mpr (OrderStatus.ofQuantities_eq_filled.mp implied)] at legal
        contradiction
      · have again := OrderStatus.next_congr (OrderStatus.canBecome_partiallyFilled legal) follows
        simp only [applyReportedStatus, same, if_false, again]
        rfl
    · exact absurd (Option.some.inj asked) same

/-- The names of the order are those of an acknowledgement. -/
def AcknowledgedAs (order : Order) (exchange exchangeOrderId : String)
    (exchangeClientOrderId : Option String) : Prop :=
  order.exchange = exchange ∧ order.exchangeOrderId = some exchangeOrderId ∧
    order.exchangeClientOrderId = exchangeClientOrderId

instance (order : Order) (exchange exchangeOrderId : String)
    (exchangeClientOrderId : Option String) :
    Decidable (order.AcknowledgedAs exchange exchangeOrderId exchangeClientOrderId) :=
  inferInstanceAs (Decidable (_ ∧ _ ∧ _))

/-- A number that the exchange gave to the order can be read. -/
def LegiblyNumbered (order : Order) : Prop :=
  ∀ exchangeOrderId, order.exchangeOrderId = some exchangeOrderId →
    Text.isBlank exchangeOrderId = false

theorem acknowledge_legible {outcome : Option Transition}
    (given : order.acknowledge exchange exchangeOrderId exchangeClientOrderId now =
      .ok (outcome, moved)) : Text.isBlank exchangeOrderId = false := by
  simp only [acknowledge, bind_ok_iff, ite_eq_iff, throw_ok_iff] at given
  grind

theorem create_legiblyNumbered {freshId : String} {command : OrderCommand}
    (created : create freshId command now = .ok order) : order.LegiblyNumbered := by
  intro exchangeOrderId number
  rw [(create_ok created).2.2.1] at number
  contradiction

theorem Becomes.legiblyNumbered (becomes : order.Becomes moved)
    (legible : order.LegiblyNumbered) : moved.LegiblyNumbered := by
  cases becomes with
  | changed change =>
      cases change with
      | acknowledged given =>
          have readable := acknowledge_legible given
          obtain ⟨-, -, rfl⟩ := acknowledge_ok given
          rintro _ ⟨⟩
          exact readable
      | canceled given =>
          obtain ⟨-, -, rfl⟩ := close_ok (cancel_ok given).2
          exact legible
      | rejected given =>
          obtain ⟨-, -, rfl⟩ := close_ok given
          exact legible
      | reported _ given =>
          obtain ⟨next, -, -, rfl⟩ := applyReportedStatus_ok given
          exact legible
  | filled advance =>
      obtain ⟨-, sum, next, -, -, -, rfl⟩ := applyFill_ok advance
      exact legible

/-- An order that is acknowledged knows its acknowledgement. -/
theorem acknowledge_known (legible : order.LegiblyNumbered)
    (acknowledged : order.status = .acknowledged)
    (known : order.AcknowledgedAs exchange exchangeOrderId exchangeClientOrderId) (now : Instant) :
    order.acknowledge exchange exchangeOrderId exchangeClientOrderId now = .ok (none, order) := by
  have readable := legible exchangeOrderId known.2.1
  unfold AcknowledgedAs at known
  simp only [acknowledge, readable, acknowledged, known, Bool.false_eq_true, if_false, if_true,
    and_self]
  rfl

/-- It refuses any other. -/
theorem acknowledge_unknown (acknowledged : order.status = .acknowledged)
    (unknown : ¬order.AcknowledgedAs exchange exchangeOrderId exchangeClientOrderId)
    (now : Instant) :
    ∃ cause, order.acknowledge exchange exchangeOrderId exchangeClientOrderId now =
      .error cause := by
  unfold AcknowledgedAs at unknown
  cases blank : Text.isBlank exchangeOrderId
  · simp only [acknowledge, blank, acknowledged, unknown, Bool.false_eq_true, if_false, if_true]
    exact ⟨_, rfl⟩
  · simp only [acknowledge, blank, if_true]
    exact ⟨_, rfl⟩

/-- An order that is no longer new stays so, under the same names. -/
theorem ComesTo.named (comes : order.ComesTo later) (settled : order.status ≠ .new) :
    later.status ≠ .new ∧ later.exchange = order.exchange ∧
      later.exchangeOrderId = order.exchangeOrderId ∧
      later.exchangeClientOrderId = order.exchangeClientOrderId := by
  induction comes with
  | refl => exact ⟨settled, rfl, rfl, rfl⟩
  | tail _ last ih =>
      obtain ⟨still, exchange, number, clientId⟩ := ih
      obtain ⟨sameExchange, sameNumber, sameClientId⟩ := last.advances.named still
      exact ⟨OrderStatus.ne_new_of_canBecome last.advances.legal, sameExchange.trans exchange,
        sameNumber.trans number, sameClientId.trans clientId⟩

end Order

namespace Terms

variable {terms : Terms} {store after : Store} {order moved : Order} {now later : Instant}
  {report : StatusReport} {status : OrderStatus} {transition : Transition}
  {eventType : OrderEventType}

/-- What is done with a report depends on the order that it finds. -/
theorem processStatus_run (terms : Terms) (report : StatusReport) (now : Instant)
    (available : store.unitOutage = none) :
    (terms.processStatus report now).run store =
      ((store.resolveOrder? report.exchange report.exchangeOrderId report.clientOrderId).elim
        (pure .unmapped) fun order =>
          if report.status = .acknowledged then terms.acknowledgeReported order report now
          else terms.reconcileStatus order report now).run store := by
  have begins : Work.start.run store = .ok ((), store) := Work.start_ok.mpr ⟨available, rfl⟩
  rw [processStatus, Work.run_bind_of_ok begins, StateT.run_bind, StateT.run_get, pure_bind]
  dsimp only
  cases store.resolveOrder? report.exchange report.exchangeOrderId report.clientOrderId <;> rfl

theorem acknowledgeReported_known (known : order.status ≠ .new) :
    (terms.acknowledgeReported order report now).run store = .ok (.unchanged, store) := by
  unfold acknowledgeReported
  cases report.exchangeOrderId with
  | none => rfl
  | some exchangeOrderId =>
      dsimp only
      rw [if_pos known]
      rfl

theorem reconcileStatus_idle
    (same : order.applyReportedStatus report.status now = .ok (none, moved)) :
    (terms.reconcileStatus order report now).run store = .ok (.unchanged, store) := by
  rw [reconcileStatus, same]
  rfl

/-- A report that finds an order without a number finds it by the number that it brings, once the
order has been acknowledged with that. -/
theorem resolve_acknowledged {exchangeOrderId : String}
    (resolved : store.resolveOrder? report.exchange (some exchangeOrderId) report.clientOrderId =
      some order) (unnumbered : order.exchangeOrderId = none)
    (given : order.acknowledge report.exchange exchangeOrderId report.clientOrderId now =
      .ok (some transition, moved))
    (orders : after.orders = Store.replaceOrder moved store.orders) :
    after.resolveOrder? report.exchange (some exchangeOrderId) report.clientOrderId =
      some moved := by
  obtain ⟨-, -, acknowledged⟩ := Order.acknowledge_ok given
  have here : moved.exchange = report.exchange := by rw [acknowledged]
  have number : moved.exchangeOrderId = some exchangeOrderId := by rw [acknowledged]
  have present : moved ∈ after.orders := by
    rw [orders]
    exact Store.mem_replaceOrder_self (resolveOrder?_mem resolved) (by rw [acknowledged])
  have only : after.orderByExchangeId? report.exchange exchangeOrderId = some moved := by
    cases lookup : after.orderByExchangeId? report.exchange exchangeOrderId with
    | none => exact absurd number (Store.orderByExchangeId?_none lookup present here)
    | some found =>
        obtain ⟨member, elsewhere, numbered⟩ := Store.orderByExchangeId?_some lookup
        obtain ⟨earlier, -⟩ | rfl := Store.mem_replaceOrder (orders ▸ member)
        · -- An order that had the number before would have been found under it.
          cases first : store.orderByExchangeId? report.exchange exchangeOrderId with
          | none => exact absurd numbered (Store.orderByExchangeId?_none first earlier elsewhere)
          | some other =>
              have which : other = order := by simpa [Store.resolveOrder?, first] using resolved
              have taken := (Store.orderByExchangeId?_some first).2.2
              rw [which, unnumbered] at taken
              contradiction
        · rfl
  rw [Store.resolveOrder?, Option.bind_some, only]
  rfl

/-- A report that was applied has moved the order that it found, and finds it as it is now. -/
theorem processStatus_applied (unique : (store.orders.map (·.id)).Nodup)
    (unnumbered : store.Unnumbered)
    (done : (terms.processStatus report now).run store = .ok (.applied status, after)) :
    ∃ order ∈ store.orders, ∃ moved,
      after.resolveOrder? report.exchange report.exchangeOrderId report.clientOrderId =
        some moved ∧
      (report.status = .acknowledged ∧ moved.status = .acknowledged ∨
        report.status ≠ .acknowledged ∧ ∃ transition,
          order.applyReportedStatus report.status now = .ok (some transition, moved)) := by
  obtain ⟨-, impossible, -⟩ | ⟨order, resolved, ⟨acknowledged, done⟩ | ⟨other, done⟩⟩ :=
    processStatus_cases done
  · contradiction
  · have member := resolveOrder?_mem resolved
    obtain ⟨-, impossible, -⟩ | ⟨number, outcome, told, new, done, applied⟩ :=
      acknowledgeReported_cases done
    · contradiction
    · obtain ⟨found, moved, lookup, given, ⟨rfl, -⟩ | ⟨transition, rfl, moves⟩⟩ :=
        acknowledgeOrder_cases done
      · contradiction
      · obtain rfl : found = order :=
          Option.some.inj (lookup.symm.trans (Store.order?_of_mem unique member))
        -- The order may now be found by the number that the report brought.
        rw [told] at resolved ⊢
        have finds := resolve_acknowledged resolved (unnumbered found member new) given moves.orders
        obtain ⟨-, -, rfl⟩ := Order.acknowledge_ok given
        exact ⟨found, member, _, finds, .inl ⟨acknowledged, rfl⟩⟩
  · have member := resolveOrder?_mem resolved
    obtain ⟨outcome, moved, applied, ⟨-, impossible, -⟩ | ⟨transition, rfl, -, moves⟩⟩ :=
      reconcileStatus_cases done
    · contradiction
    · refine ⟨order, member, moved, ?_, .inr ⟨other, transition, applied⟩⟩
      obtain ⟨next, -, -, rfl⟩ := Order.applyReportedStatus_ok applied
      rw [Store.resolveOrder?_replaceOrder moves.orders unique member rfl rfl rfl rfl rfl,
        resolved]
      exact congrArg some (if_pos rfl)

/-- A report that was applied changes nothing when it comes again. -/
theorem processStatus_again (available : after.unitOutage = none)
    (unique : (store.orders.map (·.id)).Nodup) (unnumbered : store.Unnumbered)
    (consistent : ∀ order ∈ store.orders, order.Consistent)
    (done : (terms.processStatus report now).run store = .ok (.applied status, after))
    (later : Instant) :
    (terms.processStatus report later).run after = .ok (.unchanged, after) := by
  obtain ⟨order, member, moved, finds, kind⟩ := processStatus_applied unique unnumbered done
  rw [processStatus_run terms report later available, finds, Option.elim_some]
  obtain ⟨acknowledged, known⟩ | ⟨other, transition, applied⟩ := kind
  · rw [if_pos acknowledged]
    exact acknowledgeReported_known (by rw [known]; decide)
  · rw [if_neg other]
    exact reconcileStatus_idle
      (Order.applyReportedStatus_again (consistent order member) applied later)

theorem acknowledgeOrder_known {exchange exchangeOrderId : String}
    {exchangeClientOrderId : Option String} (terms : Terms) (available : store.unitOutage = none)
    (found : store.order? order.id = some order)
    (known : order.acknowledge exchange exchangeOrderId exchangeClientOrderId now =
      .ok (none, order)) :
    (terms.acknowledgeOrder order.id exchange exchangeOrderId exchangeClientOrderId now).run
      store = .ok (none, store) := by
  simp only [acknowledgeOrder, Work.bind_ok, Work.start_ok, Store.existingOrder_ok, Work.lift_ok]
  exact ⟨(), store, ⟨available, rfl⟩, order, store, ⟨found, rfl⟩, (none, order), store,
    ⟨known, rfl⟩, Work.pure_ok.mpr ⟨rfl, rfl⟩⟩

end Terms

namespace Store

/-- However a run goes on, an order that has a number keeps it, and its other names with it.  An
acknowledged order knows an acknowledgement if and only if all three names are its own, and refuses
any other; the store stays as it is.  A report of a status that was applied changes nothing when it
comes again at once. -/
theorem redelivery_changes_nothing (run : List Request) :
    (∀ order ∈ (reached run).orders, order.exchangeOrderId ≠ none → ∀ later : List Request,
      ∃ moved, (reached (run ++ later)).order? order.id = some moved ∧
        moved.exchange = order.exchange ∧ moved.exchangeOrderId = order.exchangeOrderId ∧
        moved.exchangeClientOrderId = order.exchangeClientOrderId) ∧
    (∀ order ∈ (reached run).orders, order.status = .acknowledged →
      ∀ (terms : Terms) (exchange exchangeOrderId : String) (exchangeClientOrderId : Option String)
        (now : Instant),
      if order.AcknowledgedAs exchange exchangeOrderId exchangeClientOrderId then
        order.acknowledge exchange exchangeOrderId exchangeClientOrderId now = .ok (none, order) ∧
          (reached run).perform (terms.acknowledgeOrder order.id exchange exchangeOrderId
            exchangeClientOrderId now) = (.ok none, reached run)
      else
        ∃ cause, order.acknowledge exchange exchangeOrderId exchangeClientOrderId now =
            .error cause ∧
          (reached run).perform (terms.acknowledgeOrder order.id exchange exchangeOrderId
            exchangeClientOrderId now) = (.error (.refused (.order cause)), reached run)) ∧
    ∀ (terms : Terms) (report : StatusReport) (now : Instant) (status : OrderStatus)
      (after : Store),
      (reached run).perform (terms.processStatus report now) = (.ok (.applied status), after) →
        ∀ later, after.perform (terms.processStatus report later) = (.ok .unchanged, after) := by
  have identified := afterAll_identified empty_identified run
  have available := reached_available run
  have unnumbered := reached_unnumbered run
  refine ⟨?_, ?_, ?_⟩
  · intro order member numbered later
    obtain ⟨moved, present, comes⟩ := afterAll_comesTo later identified member
    have settled : order.status ≠ .new := fun new => numbered (unnumbered order member new)
    have unique := (afterAll_identified identified later).orders
    refine ⟨moved, ?_, (comes.named settled).2⟩
    rw [reached, afterAll_append, ← comes.leadsTo.id]
    exact order?_of_mem unique present
  · intro order member acknowledged terms exchange exchangeOrderId exchangeClientOrderId now
    have legible := reached_forall_orders Order.create_legiblyNumbered
      Order.Becomes.legiblyNumbered run order member
    have found := order?_of_mem identified.orders member
    split
    · next known =>
        have same := Order.acknowledge_known legible acknowledged known now
        exact ⟨same, perform_ok_iff.mpr (terms.acknowledgeOrder_known available found same)⟩
    · next unknown =>
        obtain ⟨cause, refused⟩ := Order.acknowledge_unknown acknowledged unknown now
        refine ⟨cause, refused, ?_⟩
        rw [perform, terms.acknowledgeOrder_refused available found refused]
  · intro terms report now status after done later
    have succeeded := perform_ok_iff.mp done
    have stillAvailable : after.unitOutage = none :=
      (Terms.processStatus_effect succeeded).step.unitOutage.trans available
    have consistent := reached_forall_orders Order.create_consistent Order.Becomes.consistent run
    exact perform_ok_iff.mpr (Terms.processStatus_again stillAvailable identified.orders unnumbered
      consistent succeeded later)

end Store

namespace Sample

/-- The exchange accepts the order, under the client order id that it was told. -/
def accepted : StatusReport where
  exchange := "binance"
  instrument := "BTCUSDT"
  exchangeOrderId := some "x-1"
  clientOrderId := some "c-1"
  status := .acknowledged
  reason := none
  reportedAt := start

/-- The exchange says that all of the order is filled, without a number of its own. -/
def complete : StatusReport := { accepted with exchangeOrderId := none, status := .filled }

/-- A trade of one unit overtakes the acknowledgement. -/
def tradedEarly : List Request :=
  placed ++ [.settle (.fill (trade (some .acknowledged))) terms start]

end Sample

namespace Store

/-- The acceptance finds the order by its number when it comes again.  Of an order that a trade has
acknowledged, the report that it is complete makes a partially filled one, and that only once. -/
theorem sample_redelivery_changes_nothing :
    (∃ order ∈ (reached Sample.acknowledged).orders, order.exchangeOrderId = some "x-1" ∧
      (∃ moved, (reached (Sample.acknowledged ++ Sample.canceled)).order? order.id = some moved ∧
        moved.exchangeOrderId = some "x-1") ∧
      (reached Sample.acknowledged).perform (Sample.terms.acknowledgeOrder order.id "binance" "x-1"
        none Sample.start) = (.ok none, reached Sample.acknowledged)) ∧
    (∃ after, (reached Sample.placed).perform
        (Sample.terms.processStatus Sample.accepted Sample.start) =
          (.ok (.applied .acknowledged), after) ∧
      after.perform (Sample.terms.processStatus Sample.accepted Sample.start) =
        (.ok .unchanged, after)) ∧
    ∃ after, (reached Sample.tradedEarly).perform
        (Sample.terms.processStatus Sample.complete Sample.start) =
          (.ok (.applied .partiallyFilled), after) ∧
      after.perform (Sample.terms.processStatus Sample.complete Sample.start) =
        (.ok .unchanged, after) := by
  have known : ∃ order ∈ (reached Sample.acknowledged).orders,
      order.status = .acknowledged ∧ order.AcknowledgedAs "binance" "x-1" none := by
    decide +kernel
  have accepted : ((reached Sample.placed).perform
      (Sample.terms.processStatus Sample.accepted Sample.start)).1 =
        .ok (.applied .acknowledged) := by
    decide +kernel
  have complete : ((reached Sample.tradedEarly).perform
      (Sample.terms.processStatus Sample.complete Sample.start)).1 =
        .ok (.applied .partiallyFilled) := by
    decide +kernel
  refine ⟨?_, ?_, ?_⟩
  · obtain ⟨order, member, acknowledged, names⟩ := known
    obtain ⟨keeps, knows, -⟩ := redelivery_changes_nothing Sample.acknowledged
    have numbered : order.exchangeOrderId ≠ none := by
      rw [names.2.1]
      nofun
    obtain ⟨moved, lookup, -, number, -⟩ := keeps order member numbered Sample.canceled
    have same := knows order member acknowledged Sample.terms "binance" "x-1" none Sample.start
    rw [if_pos names] at same
    exact ⟨order, member, names.2.1, ⟨moved, lookup, number.trans names.2.1⟩, same.2⟩
  · have done := perform_ok_iff.mpr (perform_ok accepted)
    exact ⟨_, done, (redelivery_changes_nothing Sample.placed).2.2 _ _ _ _ _ done _⟩
  · have done := perform_ok_iff.mpr (perform_ok complete)
    exact ⟨_, done, (redelivery_changes_nothing Sample.tradedEarly).2.2 _ _ _ _ _ done _⟩

end Store

end SpotSettlement
