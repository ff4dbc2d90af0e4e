import SpotSettlement.Proofs.Outbox.Payloads
import SpotSettlement.Proofs.Settlement.Acknowledgement
import SpotSettlement.Proofs.Settlement.Commuting
import SpotSettlement.Proofs.Settlement.Deduplication
import SpotSettlement.Proofs.Settlement.Holdings

namespace SpotSettlement

/-! # Orders that wait, and reports that come again

An order that waits for its acknowledgement takes any that comes with a number.  A report without a
status is nothing to an order that waits, and leaves all names as they are; so what has become of it
is settled, and it comes to the same when the report comes again.
-/

open Decimal

variable {terms : Terms} {order : Order} {store middle after final : Store} {now later : Instant}
  {exchange exchangeOrderId : String} {exchangeClientOrderId : Option String}

theorem Decimal.sub_zero_ok {d : Decimal} (positive : 0 < d.value) : d.sub zero = .ok d := by
  have nonzero : d.mantissa ≠ 0 := fun empty => positive.ne' (value_eq_zero_iff.mpr empty)
  rw [sub, if_neg nonzero]
  exact if_pos rfl

namespace Order

theorem announceArithmetic_unfilled (unfilled : order.filled = .zero)
    (positive : 0 < order.quantity.value) : Exact order.announceArithmetic := by
  have remaining : order.remaining = .ok order.quantity := by
    rw [Order.remaining, unfilled]
    exact sub_zero_ok positive
  rw [announceArithmetic, remaining, exact_cons_iff]
  refine ⟨⟨order.quantity, remaining, ?_⟩, exact_cons_iff.mpr ⟨⟨order.quantity, ?_, ?_⟩, nofun⟩⟩
  · simp [Operation.ideal, unfilled, value_zero]
  · rw [unfilled]
    exact zero_add_ok _
  · simp [Operation.ideal, unfilled, value_zero]

/-- The order once it is acknowledged, with the names that the exchange gives it. -/
def acknowledgedWith (order : Order) (exchange exchangeOrderId : String)
    (exchangeClientOrderId : Option String) (now : Instant) : Order :=
  { order with
    exchange := exchange
    exchangeOrderId := some exchangeOrderId
    exchangeClientOrderId := exchangeClientOrderId
    status := .acknowledged
    updatedAt := now }

theorem acknowledge_exists (new : order.status = .new)
    (numbered : Text.isBlank exchangeOrderId = false) (exchange : String)
    (exchangeClientOrderId : Option String) (now : Instant) :
    order.acknowledge exchange exchangeOrderId exchangeClientOrderId now =
      .ok (some ⟨.new, .acknowledged⟩,
        order.acknowledgedWith exchange exchangeOrderId exchangeClientOrderId now) := by
  simp only [acknowledge, numbered, new, Bool.false_eq_true, reduceCtorEq, ne_eq, not_true_eq_false,
    if_false]
  rfl

end Order

namespace Store

/-- Orders have identifiers of their own that can be read, and nothing of a new order is filled. -/
structure Orderly (store : Store) : Prop where
  unique : (store.orders.map (·.id)).Nodup
  named : ∀ order ∈ store.orders, Text.isBlank order.id = false
  fresh : ∀ order ∈ store.orders, order.status = .new →
    order.filled = .zero ∧ 0 < order.quantity.value

theorem Step.orderly {filling : Option ExecutionReport} {operations : List Operation}
    (step : store.Step filling operations after) (orderly : store.Orderly) : after.Orderly where
  unique := step.orders_nodup orderly.unique
  named := step.named orderly.named
  fresh := by
    refine step.forall_orders ?_ ?_ orderly.fresh
    · intro _ _ _ _ create _
      obtain ⟨-, unfilled, -, -, positive, -⟩ := Order.create_ok create
      exact ⟨unfilled, positive⟩
    · intro _ _ becomes _ new
      exact absurd new (OrderStatus.ne_new_of_canBecome becomes.advances.legal)

theorem apply_orderly (request : Request) (orderly : store.Orderly) :
    (request.apply store).Orderly :=
  apply_induction Orderly request orderly
    (fun _ orderly => ⟨orderly.unique, orderly.named, orderly.fresh⟩) Step.orderly

theorem afterAll_orderly (orderly : store.Orderly) (run : List Request) :
    (store.afterAll run).Orderly :=
  afterAll_induction Orderly orderly fun request _ _ => apply_orderly request

theorem Orderly.congr (orderly : store.Orderly) (same : after.orders = store.orders) :
    after.Orderly :=
  ⟨same ▸ orderly.unique, same ▸ orderly.named, same ▸ orderly.fresh⟩

/-- Requests have led to the orders of the store, whatever else was written in between. -/
inductive Reachable : Store → Prop
  | empty : Reachable {}
  | request {store : Store} (request : Request) (reachable : Reachable store) :
      Reachable (request.apply store)
  | besides {store after : Store} (reachable : Reachable store)
      (kept : after.orders = store.orders) : Reachable after

theorem reached_reachable (run : List Request) : (reached run).Reachable :=
  afterAll_induction Reachable .empty fun request _ _ => .request request

theorem Reachable.orderly (reachable : store.Reachable) : store.Orderly := by
  induction reachable with
  | empty => exact ⟨.nil, List.forall_mem_nil _, List.forall_mem_nil _⟩
  | request request _ orderly => exact apply_orderly request orderly
  | besides _ kept orderly => exact orderly.congr kept

end Store

open Store

namespace Terms

/-- An order that waits is acknowledged if it is given a number, and so waits no longer. -/
theorem acknowledgeOrder_accepts (terms : Terms) (orderly : store.Orderly)
    (available : store.unitOutage = none) (member : order ∈ store.orders)
    (new : order.status = .new) (numbered : Text.isBlank exchangeOrderId = false)
    (exchange : String) (exchangeClientOrderId : Option String) (now : Instant) :
    ∃ after, (terms.acknowledgeOrder order.id exchange exchangeOrderId exchangeClientOrderId
        now).run store = .ok (some ⟨.new, .acknowledged⟩, after) ∧
      after.orders = replaceOrder (order.acknowledgedWith exchange exchangeOrderId
        exchangeClientOrderId now) store.orders := by
  have found := order?_of_mem orderly.unique member
  have given := Order.acknowledge_exists new numbered exchange exchangeClientOrderId now
  obtain ⟨unfilled, positive⟩ := orderly.fresh order member new
  have nothing : order.filled.value = 0 := by rw [unfilled, value_zero]
  generalize acknowledged : order.acknowledgedWith exchange exchangeOrderId exchangeClientOrderId
    now = moved at given ⊢
  have sameId : moved.id = order.id := acknowledged ▸ rfl
  have sameFilled : moved.filled = order.filled := acknowledged ▸ rfl
  have sameQuantity : moved.quantity = order.quantity := acknowledged ▸ rfl
  have present : (store.order? moved.id).isNone = false := by rw [sameId, found]; rfl
  obtain ⟨after, announcing⟩ := terms.announceOrder_exists .new none
    (sameId ▸ orderly.named order member) (by rw [sameFilled, nothing])
    (by rw [sameFilled, nothing, sameQuantity]; exact positive.le)
    (Order.announceArithmetic_unfilled (sameFilled ▸ unfilled) (sameQuantity ▸ positive))
    moved.updatedAt ((store.withOrder moved).recorded
      ⟨identifier (store.minted + 1), moved.id, .acknowledged, some .new, .acknowledged,
        .object [("exchange_name", .string exchange),
          ("exchange_order_id", .string exchangeOrderId),
          ("exchange_client_order_id", Json.ofOption .string exchangeClientOrderId)],
        moved.updatedAt⟩)
  have done : (terms.acknowledgeOrder order.id exchange exchangeOrderId exchangeClientOrderId
      now).run store = .ok (some ⟨.new, .acknowledged⟩, after) := by
    simp only [acknowledgeOrder, recordTransition, Work.bind_ok, Work.start_ok,
      Store.existingOrder_ok, Work.lift_ok]
    refine ⟨(), store, ⟨available, rfl⟩, order, store, ⟨found, rfl⟩, _, store, ⟨given, rfl⟩, ?_⟩
    simp only [Work.bind_ok, updateOrder_ok, recordEvent_ok]
    exact ⟨(), _, ⟨present, rfl⟩, (), after, ⟨(), _, rfl, announcing⟩, rfl⟩
  refine ⟨after, done, ?_⟩
  obtain ⟨other, moved', again, given', ⟨impossible, -⟩ | ⟨transition, -, moves⟩⟩ :=
    acknowledgeOrder_cases done
  · contradiction
  · obtain rfl := Option.some.inj (found.symm.trans again)
    cases given.symm.trans given'
    exact moves.orders

theorem acknowledgeOrder_refused {cause : OrderError} (terms : Terms)
    (available : store.unitOutage = none) (found : store.order? order.id = some order)
    (refused : order.acknowledge exchange exchangeOrderId exchangeClientOrderId now =
      .error cause) :
    (terms.acknowledgeOrder order.id exchange exchangeOrderId exchangeClientOrderId now).run
      store = .error (.refused (.order cause)) := by
  have begins : Work.start.run store = .ok ((), store) := Work.start_ok.mpr ⟨available, rfl⟩
  have looked : (existingOrder order.id).run store = .ok (order, store) :=
    Store.existingOrder_ok.mpr ⟨found, rfl⟩
  rw [acknowledgeOrder, Work.run_bind_of_ok begins, Work.run_bind_of_ok looked, refused]
  rfl

theorem acknowledgeOrder_refuses (terms : Terms) (orderly : store.Orderly)
    (available : store.unitOutage = none) (member : order ∈ store.orders)
    (unnumbered : Text.isBlank exchangeOrderId = true) (exchange : String)
    (exchangeClientOrderId : Option String) (now : Instant) :
    ∃ cause, (terms.acknowledgeOrder order.id exchange exchangeOrderId exchangeClientOrderId
      now).run store = .error (.refused cause) := by
  have refused : order.acknowledge exchange exchangeOrderId exchangeClientOrderId now =
      .error (.invalidParameter "exchange_order_id" "must not be empty") := by
    simp only [Order.acknowledge, unnumbered, if_true]
    rfl
  exact ⟨_, terms.acknowledgeOrder_refused available (order?_of_mem orderly.unique member) refused⟩

end Terms

/-- The orders wait, each for an acknowledgement of its own. -/
structure Store.Awaits (store : Store) (orders : List Order) : Prop where
  orderly : store.Orderly
  available : store.unitOutage = none
  waiting : ∀ order ∈ orders, order ∈ store.orders ∧ order.status = .new
  distinct : (orders.map (·.id)).Nodup

namespace Store.Awaits

variable {rest : List Order}

theorem skip (awaits : store.Awaits (order :: rest)) : store.Awaits rest where
  orderly := awaits.orderly
  available := awaits.available
  waiting := (List.forall_mem_cons.mp awaits.waiting).2
  distinct := (List.nodup_cons.mp awaits.distinct).2

/-- Acknowledging one of them leaves the others waiting. -/
theorem acknowledge (awaits : store.Awaits (order :: rest)) (terms : Terms)
    (numbered : Text.isBlank exchangeOrderId = false) (exchange : String)
    (exchangeClientOrderId : Option String) (now : Instant) :
    ∃ transition moved after,
      store.perform (terms.acknowledgeOrder order.id exchange exchangeOrderId
        exchangeClientOrderId now) = (.ok (some transition), after) ∧
      moved.id = order.id ∧ moved.status = .acknowledged ∧
      after.orders = replaceOrder moved store.orders ∧ after.Awaits rest := by
  obtain ⟨⟨member, new⟩, others⟩ := List.forall_mem_cons.mp awaits.waiting
  obtain ⟨after, done, orders⟩ := terms.acknowledgeOrder_accepts awaits.orderly awaits.available
    member new numbered exchange exchangeClientOrderId now
  have step := (Terms.acknowledgeOrder_effect done).step
  refine ⟨_, order.acknowledgedWith exchange exchangeOrderId exchangeClientOrderId now, after,
    perform_ok_iff.mpr done, rfl, rfl, orders, step.orderly awaits.orderly,
    step.unitOutage.trans awaits.available, ?_, awaits.skip.distinct⟩
  intro other listed
  have apart : other.id ≠ order.id := fun clash =>
    (List.nodup_cons.mp awaits.distinct).1 (List.mem_map.mpr ⟨other, listed, clash⟩)
  exact ⟨orders ▸ mem_replaceOrder_of_ne (others other listed).1 apart, (others other listed).2⟩

end Store.Awaits

/-- From one store to the other, all names are used that were used before and no others, no
execution is forgotten, and no order has begun to wait. -/
structure Store.Steady (store after : Store) : Prop where
  resolves : ∀ exchange exchangeOrderId clientOrderId,
    (after.resolveOrder? exchange exchangeOrderId clientOrderId).isSome =
      (store.resolveOrder? exchange exchangeOrderId clientOrderId).isSome
  recorded : ∀ key, store.hasExecution key = true → after.hasExecution key = true
  waiting : ∀ order ∈ after.orders, order.status = .new → order ∈ store.orders
  unitOutage : after.unitOutage = store.unitOutage

theorem Store.Steady.refl (store : Store) : store.Steady store :=
  ⟨fun _ _ _ => rfl, fun _ => id, fun _ member _ => member, rfl⟩

theorem Store.Steady.trans (first : store.Steady middle) (second : middle.Steady after) :
    store.Steady after where
  resolves exchange exchangeOrderId clientOrderId :=
    (second.resolves ..).trans (first.resolves exchange exchangeOrderId clientOrderId)
  recorded key earlier := second.recorded key (first.recorded key earlier)
  waiting order member new := first.waiting order (second.waiting order member new) new
  unitOutage := second.unitOutage.trans first.unitOutage

namespace Terms

variable {report : ExecutionReport} {outcome : IngestOutcome}

theorem Fills.steady (fills : terms.Fills order report now store outcome after)
    (orderly : store.Orderly)
    (resolved : store.resolveOrder? report.exchange report.exchangeOrderId report.clientOrderId =
      some order)
    (fresh : store.hasExecution (report.exchange, report.instrument, report.tradeId) = false)
    (unnamed : report.reportedStatus = none) : store.Steady after := by
  have step := Step.filled resolved fresh fills
  have member := resolveOrder?_mem resolved
  obtain ⟨fill, moved, advance, orders, -⟩ := fills_orders fills
  have advances := Order.applyFill_advances advance
  have settled : order.status ≠ .new := by
    intro new
    obtain ⟨-, -, -, named, -⟩ :=
      Order.applyFill_new new (orderly.fresh order member new).1 advance
    exact absurd (unnamed.symm.trans named) nofun
  refine ⟨?_, fun key => step.hasExecution, ?_, step.unitOutage⟩
  · intro exchange exchangeOrderId clientOrderId
    rw [resolveOrder?_of_advances orders orderly.unique member advances settled,
      Option.isSome_map]
  · intro other present new
    obtain ⟨earlier, -⟩ | rfl := mem_replaceOrder (orders ▸ present)
    · exact earlier
    · exact absurd new (OrderStatus.ne_new_of_canBecome advances.legal)

theorem processFill_steady (terms : Terms) (now : Instant) (orderly : store.Orderly)
    (unnamed : report.reportedStatus = none) :
    store.Steady (store.perform (terms.processFill report now)).2 := by
  refine perform_keeps store.Steady (.refl store) fun outcome after done => ?_
  obtain ⟨-, -, ⟨-, -, rfl⟩ | ⟨order, resolved, ⟨-, -, rfl⟩ | ⟨fresh, fills⟩⟩⟩ :=
    processFill_cases done
  · exact .refl after
  · exact .refl after
  · exact fills.steady orderly resolved fresh unnamed

theorem processFill_orderly (terms : Terms) (now : Instant) (orderly : store.Orderly) :
    (store.perform (terms.processFill report now)).2.Orderly :=
  ((Call.fill report).step terms now store).orderly orderly

end Terms

/-- What becomes of a report that comes again. -/
def IngestOutcome.again : IngestOutcome → IngestOutcome
  | .inserted .. | .duplicate => .duplicate
  | .unmapped => .unmapped

namespace Terms

variable {report : ExecutionReport} {outcome : IngestOutcome}

theorem processFill_recorded
    (done : (terms.processFill report now).run store = .ok (outcome, after))
    (mapped : outcome ≠ .unmapped) :
    after.hasExecution (report.exchange, report.instrument, report.tradeId) = true := by
  obtain ⟨-, -, ⟨-, other, -⟩ | ⟨order, -, ⟨recorded, -, rfl⟩ | ⟨-, fills⟩⟩⟩ :=
    processFill_cases done
  · contradiction
  · exact recorded
  · rw [hasExecution_iff, (fills_tables fills).2.1, List.map_append]
    exact List.mem_append_right _ (List.mem_singleton_self _)

/-- A report without a status that comes again, after nothing but such reports, changes nothing: it
is a duplicate now, unless it is unmapped as before. -/
theorem processFill_again (done : (terms.processFill report now).run store = .ok (outcome, after))
    (orderly : store.Orderly) (unnamed : report.reportedStatus = none)
    (steady : after.Steady final) (later : Instant) :
    (terms.processFill report later).run final = .ok (outcome.again, final) := by
  have whole : store.Steady after := by
    have kept := processFill_steady terms now orderly unnamed
    rwa [perform_ok_iff.mpr done] at kept
  obtain ⟨valid, available, kinds⟩ := processFill_cases done
  have found := (whole.trans steady).resolves report.exchange report.exchangeOrderId
    report.clientOrderId
  have begins : final.unitOutage = none := by rw [(whole.trans steady).unitOutage, available]
  rw [processFill_run terms later valid begins]
  obtain ⟨unresolved, rfl, rfl⟩ | ⟨order, resolved, mapped⟩ := kinds
  · rw [unresolved, Option.isSome_none, Option.isSome_eq_false_iff, Option.isNone_iff_eq_none]
      at found
    rw [found]
    rfl
  · have mapped : outcome.again = .duplicate ∧ outcome ≠ .unmapped := by
      obtain ⟨-, rfl, -⟩ | ⟨-, fills⟩ := mapped
      · exact ⟨rfl, by simp⟩
      · obtain ⟨-, moved, -, -, rfl⟩ := fills_orders fills
        exact ⟨rfl, by simp⟩
    rw [resolved, Option.isSome_some, Option.isSome_iff_exists] at found
    obtain ⟨again, resolvedAgain⟩ := found
    have recorded := steady.recorded _ (processFill_recorded done mapped.2)
    rw [resolvedAgain, Option.elim_some, if_pos recorded, mapped.1]
    rfl

end Terms

end SpotSettlement
