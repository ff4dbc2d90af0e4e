import SpotSettlement.Proofs.Settlement.Identities

namespace SpotSettlement

/-! # A fill takes effect once

The exchange may report a fill any number of times.  The first report that is applied adds one row
to each of the tables that record it; every later one is found to be a duplicate, whatever happened
in between, because its order keeps the names by which the report finds it and its execution stays.
-/

open Decimal

namespace Store

variable {store after : Store} {filling : Option ExecutionReport} {operations : List Operation}
  {report : ExecutionReport}

/-- One store comes from the other by one fill: each table that records fills has one row more. -/
structure OneFill (store after : Store) (report : ExecutionReport)
    (executionId orderId : String) : Prop where
  executed : ∃ execution, after.executions = store.executions ++ [execution] ∧
    execution.id = executionId ∧
    execution.key = (report.exchange, report.instrument, report.tradeId)
  booked : ∃ transaction, after.ledger = store.ledger ++ [transaction] ∧
    transaction.correlationId = executionId
  audited : ∃ event, after.orderEvents = store.orderEvents ++ [event] ∧
    event.eventType = .executionApplied ∧ event.orderId = orderId
  announced : ∃ rows, after.outbox = store.outbox ++ rows ∧
    rows.countP (·.eventType == .executionRecorded) = 1

theorem fills_oneFill {terms : Terms} {order : Order} {now : Instant}
    {executionId orderId : String} {status : OrderStatus}
    (fills : terms.Fills order report now store (.inserted executionId orderId status) after) :
    store.OneFill after report executionId orderId := by
  obtain ⟨-, executions, transaction, correlates, ledger⟩ := fills_tables fills
  cases fills with
  | applied _ _ _ settle _ _ close audited announced announcedOrder announcedBalances =>
      have settled := Funds.settleFill_funds settle
      have closed := Terms.releaseIfClosed_funds close
      obtain ⟨details, made⟩ := audited
      refine ⟨⟨_, executions, rfl, rfl⟩, ⟨transaction, ledger, correlates⟩,
        ⟨_, congrArg (· ++ [_]) (closed.orderEvents.trans settled.orderEvents), ?_, ?_⟩,
        ⟨_, congrArg (· ++ _) (closed.outbox.trans settled.outbox), ?_⟩⟩
      · rw [made]
      · rw [made]
      · have orderRows := announcedOrder.eventType
        have balanceRows := announcedBalances.eventType
        rw [List.countP_append, List.countP_append, List.countP_singleton,
          List.countP_eq_zero.mpr, List.countP_eq_zero.mpr, if_pos]
        · simp [announced.eventType]
          rfl
        · intro row member
          rw [balanceRows row member]
          decide
        · intro row member
          rw [orderRows row member]
          decide

theorem Step.hasExecution {key : String × String × String}
    (step : store.Step filling operations after) (recorded : store.hasExecution key = true) :
    after.hasExecution key = true := by
  rw [hasExecution_iff] at *
  obtain ⟨same, -⟩ | ⟨_, _, _, _, _, -, -, -, fills⟩ := step.executions_cases
  · rw [same]
    exact recorded
  · rw [(fills_tables fills).2.1, List.map_append]
    exact List.mem_append_left _ recorded

/-- A store in which a report has been applied: the report finds its order, and its execution is
recorded. -/
structure Applied (store : Store) (report : ExecutionReport) : Prop where
  identified : store.Identified
  available : store.unitOutage = none
  finds : store.Finds report.exchange report.exchangeOrderId report.clientOrderId
  recorded : store.hasExecution (report.exchange, report.instrument, report.tradeId) = true

theorem Step.applied (step : store.Step filling operations after) (applied : store.Applied report) :
    after.Applied report where
  identified := step.identified applied.identified
  available := step.unitOutage.trans applied.available
  finds := step.finds applied.identified.orders applied.finds
  recorded := step.hasExecution applied.recorded

theorem afterAll_applied (applied : store.Applied report) (run : List Request) :
    (store.afterAll run).Applied report := by
  refine afterAll_induction (·.Applied report) applied ?_
  intro request _ store applied
  refine apply_induction (·.Applied report) request applied ?_ Step.applied
  intro store balances applied
  exact ⟨applied.identified.withBalances balances, applied.available, applied.finds,
    applied.recorded⟩

/-- A report that has been applied is a duplicate, and changes nothing. -/
theorem processFill_applied (applied : store.Applied report) (valid : report.validate = .ok ())
    (terms : Terms) (now : Instant) :
    store.perform (terms.processFill report now) = (.ok .duplicate, store) := by
  -- The order found may be another one than at first: what counts is that there is one.
  obtain ⟨order, member, -, named⟩ := applied.finds
  obtain ⟨found, resolved⟩ := resolveOrder?_isSome member named
  rw [perform_ok_iff, Terms.processFill_run terms now valid applied.available, resolved,
    Option.elim_some, if_pos applied.recorded]
  rfl

/-- A fill that is applied leaves a store in which its report has been applied. -/
theorem fills_applied {terms : Terms} {order : Order} {now : Instant} {outcome : IngestOutcome}
    (identified : store.Identified) (available : store.unitOutage = none)
    (resolved : store.resolveOrder? report.exchange report.exchangeOrderId report.clientOrderId =
      some order)
    (fresh : store.hasExecution (report.exchange, report.instrument, report.tradeId) = false)
    (fills : terms.Fills order report now store outcome after) : after.Applied report := by
  have step := Step.filled resolved fresh fills
  have member := Terms.resolveOrder?_mem resolved
  have named := resolveOrder?_goesBy resolved
  refine ⟨step.identified identified, step.unitOutage.trans available, ?_, ?_⟩
  · obtain ⟨fill, moved, advance, orders, -⟩ := fills_orders fills
    have advances := Order.applyFill_advances advance
    obtain ⟨-, sum, next, -, -, -, rfl⟩ := Order.applyFill_ok advance
    exact ⟨_, orders ▸ mem_replaceOrder_self member rfl,
      OrderStatus.ne_new_of_canBecome advances.legal, named⟩
  · rw [hasExecution_iff, (fills_tables fills).2.1, List.map_append]
    exact List.mem_append_right _ (List.mem_singleton_self _)

/-- Along any run no fill is recorded twice, and executions and transactions belong together.  A
report that is applied adds one row to each table, and from then on it is a duplicate. -/
theorem fills_take_effect_once (run : List Request) :
    ((reached run).executions.map (·.key)).Nodup ∧
    ((reached run).executions.map (·.id)).Nodup ∧
    (reached run).ledger.map (·.correlationId) = (reached run).executions.map (·.id) ∧
    ∀ (terms : Terms) (report : ExecutionReport) (now : Instant) (executionId orderId : String)
      (status : OrderStatus) (filled : Store),
      (reached run).perform (terms.processFill report now) =
        (.ok (.inserted executionId orderId status), filled) →
      (reached run).OneFill filled report executionId orderId ∧
      ∀ (later : List Request) (otherTerms : Terms) (afterwards : Instant),
        (filled.afterAll later).perform (otherTerms.processFill report afterwards) =
          (.ok .duplicate, filled.afterAll later) := by
  have identified := afterAll_identified empty_identified run
  refine ⟨identified.keys, identified.executions.1, identified.booked, ?_⟩
  intro terms report now executionId orderId status filled done
  obtain ⟨valid, available, ⟨-, other, -⟩ | ⟨order, resolved, ⟨-, other, -⟩ | ⟨fresh, fills⟩⟩⟩ :=
    Terms.processFill_cases (perform_ok_iff.mp done)
  · contradiction
  · contradiction
  · refine ⟨fills_oneFill fills, ?_⟩
    intro later otherTerms afterwards
    have applied := fills_applied identified available resolved fresh fills
    exact processFill_applied (afterAll_applied applied later) valid otherTerms afterwards

theorem sample_trade_takes_effect_once :
    ∃ executionId filled,
      (reached Sample.acknowledged).perform (Sample.terms.processFill (Sample.trade none)
        Sample.start) = (.ok (.inserted executionId "o-1" .partiallyFilled), filled) ∧
      (reached Sample.acknowledged).OneFill filled (Sample.trade none) executionId "o-1" ∧
      (filled.afterAll Sample.canceled).perform (Sample.terms.processFill (Sample.trade none)
        Sample.start) = (.ok .duplicate, filled.afterAll Sample.canceled) := by
  have outcome : ((reached Sample.acknowledged).perform (Sample.terms.processFill
      (Sample.trade none) Sample.start)).1 =
        .ok (.inserted "00000000-0000-4000-8000-000000000009" "o-1" .partiallyFilled) := by
    decide +kernel
  have done := perform_ok_iff.mpr (perform_ok outcome)
  have once := (fills_take_effect_once Sample.acknowledged).2.2.2 _ _ _ _ _ _ _ done
  exact ⟨_, _, done, once.1, once.2 Sample.canceled Sample.terms Sample.start⟩

end Store

end SpotSettlement
