import SpotSettlement.Proofs.Engine.Cancelling
import SpotSettlement.Proofs.Engine.CatchUp

namespace SpotSettlement

/-! # Catching up twice

After a cycle, no order waits any more that is open under a number, and every trade that was applied
has its execution, or is unmapped for good.  A cycle that is told the same once more has nothing to
do.
-/

namespace Ingestion

variable {came : List Ingestion}

/-- What comes of the same report when it comes again. -/
def again : Ingestion → Ingestion
  | .fill outcome => .fill outcome.again
  | other => other

/-- What comes of a reading is counted in one place. -/
def CountedOnce (ingestion : Ingestion) : Prop :=
  ingestion.isInserted.toNat + ingestion.isDuplicate.toNat + ingestion.isUnmapped.toNat +
    ingestion.isError.toNat = 1

theorem ofResult_countedOnce {result : Except Failure IngestOutcome}
    (fits : (ofResult .fill result).isOverflow = false) : (ofResult .fill result).CountedOnce := by
  cases result with
  | ok outcome => cases outcome <;> rfl
  | error failure =>
      cases failure with
      | refused => rfl
      | overflow => cases fits

theorem ofResult_applied {result : Except Failure IngestOutcome}
    (applied : (ofResult .fill result).isError = false)
    (fits : (ofResult .fill result).isOverflow = false) : ∃ outcome, result = .ok outcome := by
  cases result with
  | ok outcome => exact ⟨outcome, rfl⟩
  | error failure => cases failure <;> contradiction

theorem ofResult_mapped {result : Except Failure IngestOutcome}
    (counted : ((ofResult .fill result).isInserted || (ofResult .fill result).isDuplicate) = true) :
    ∃ outcome, result = .ok outcome ∧ outcome ≠ .unmapped := by
  cases result with
  | ok outcome =>
      refine ⟨outcome, rfl, ?_⟩
      rintro rfl
      contradiction
  | error failure => cases failure <;> contradiction

theorem length_eq_countP (once : ∀ ingestion ∈ came, ingestion.CountedOnce) :
    came.length = came.countP (·.isInserted) + came.countP (·.isDuplicate) +
      came.countP (·.isUnmapped) + came.countP (·.isError) := by
  induction came with
  | nil => rfl
  | cons ingestion rest ih =>
      obtain ⟨first, others⟩ := List.forall_mem_cons.mp once
      have counted := ih others
      simp only [CountedOnce, Bool.toNat, Bool.cond_eq_ite] at first
      simp only [List.length_cons, List.countP_cons]
      omega

theorem countP_again {counts : Ingestion → Bool}
    (same : ∀ ingestion : Ingestion, counts ingestion.again = counts ingestion) :
    (came.map again).countP counts = came.countP counts := by
  rw [List.countP_map]
  exact congrArg (List.countP · came) (funext same)

theorem isOverflow_again (ingestion : Ingestion) :
    ingestion.again.isOverflow = ingestion.isOverflow := by
  cases ingestion <;> rfl

theorem countP_again_inserted : (came.map again).countP (·.isInserted) = 0 := by
  rw [List.countP_map, List.countP_eq_zero]
  intro ingestion _
  cases ingestion with
  | fill outcome => cases outcome <;> exact Bool.false_ne_true
  | _ => exact Bool.false_ne_true

theorem countP_again_duplicate : (came.map again).countP (·.isDuplicate) =
    came.countP (·.isInserted) + came.countP (·.isDuplicate) := by
  induction came with
  | nil => rfl
  | cons ingestion rest ih =>
      have first : ingestion.again.isDuplicate.toNat =
          ingestion.isInserted.toNat + ingestion.isDuplicate.toNat := by
        cases ingestion with
        | fill outcome => cases outcome <;> rfl
        | _ => rfl
      simp only [Bool.toNat, Bool.cond_eq_ite] at first
      simp only [List.map_cons, List.countP_cons, ih]
      omega

end Ingestion

namespace Setup

variable {setup : Setup} {now later : Instant} {engine : Engine} {store final : Store}
  {trades : List ExchangeTrade}

theorem ingestAll_cons (trade : ExchangeTrade) :
    setup.terms.ingestAll now store (setup.readings (trade :: trades)) =
      let first := store.perform (setup.terms.processFill (trade.toReport setup.exchange) now)
      let others := setup.terms.ingestAll now first.2 (setup.readings trades)
      (.ofResult .fill first.1 :: others.1, others.2) := rfl

theorem ingestAll_countedOnce
    (fits : ∀ ingestion ∈ (setup.terms.ingestAll now store (setup.readings trades)).1,
      ingestion.isOverflow = false) :
    ∀ ingestion ∈ (setup.terms.ingestAll now store (setup.readings trades)).1,
      ingestion.CountedOnce := by
  induction trades generalizing store with
  | nil => exact List.forall_mem_nil _
  | cons trade rest ih =>
      obtain ⟨first, others⟩ := List.forall_mem_cons.mp fits
      exact List.forall_mem_cons.mpr ⟨Ingestion.ofResult_countedOnce first, ih others⟩

theorem length_ingestAll :
    (setup.terms.ingestAll now store (setup.readings trades)).1.length = trades.length := by
  induction trades generalizing store with
  | nil => rfl
  | cons trade rest ih => exact congrArg (· + 1) ih

theorem ingestAll_steady (setup : Setup) (now : Instant) (orderly : store.Orderly)
    (trades : List ExchangeTrade) :
    store.Steady (setup.terms.ingestAll now store (setup.readings trades)).2 ∧
      (setup.terms.ingestAll now store (setup.readings trades)).2.Orderly := by
  induction trades generalizing store with
  | nil => exact ⟨.refl _, orderly⟩
  | cons trade rest ih =>
      obtain ⟨steady, still⟩ := ih (setup.terms.processFill_orderly now orderly)
      exact ⟨(setup.terms.processFill_steady now orderly rfl).trans steady, still⟩

/-- The trades that were inserted or are duplicates have their executions recorded. -/
theorem ingestAll_recorded (orderly : store.Orderly) (trades : List ExchangeTrade) :
    List.Forall₂ (fun trade ingestion => (ingestion.isInserted || ingestion.isDuplicate) = true →
      (setup.terms.ingestAll now store (setup.readings trades)).2.hasExecution
        (setup.exchange, trade.instrument, trade.tradeId) = true)
      trades (setup.terms.ingestAll now store (setup.readings trades)).1 := by
  induction trades generalizing store with
  | nil => exact .nil
  | cons trade rest ih =>
      have next : (store.perform
          (setup.terms.processFill (trade.toReport setup.exchange) now)).2.Orderly :=
        setup.terms.processFill_orderly now orderly
      refine .cons (fun counted => ?_) (ih next)
      obtain ⟨outcome, done, mapped⟩ := Ingestion.ofResult_mapped counted
      have recorded := Terms.processFill_recorded (Store.perform_ok done) mapped
      exact (setup.ingestAll_steady now next rest).1.recorded _ recorded

/-- Trades that were told before, and applied, change nothing. -/
theorem ingestAll_again (orderly : store.Orderly)
    (applied : ∀ ingestion ∈ (setup.terms.ingestAll now store (setup.readings trades)).1,
      ingestion.isError = false ∧ ingestion.isOverflow = false)
    (steady : (setup.terms.ingestAll now store (setup.readings trades)).2.Steady final)
    (later : Instant) :
    setup.terms.ingestAll later final (setup.readings trades) =
      ((setup.terms.ingestAll now store (setup.readings trades)).1.map .again, final) := by
  induction trades generalizing store with
  | nil => rfl
  | cons trade rest ih =>
      have next : (store.perform
          (setup.terms.processFill (trade.toReport setup.exchange) now)).2.Orderly :=
        setup.terms.processFill_orderly now orderly
      rw [ingestAll_cons] at applied steady ⊢
      rw [ingestAll_cons]
      generalize performed : store.perform
        (setup.terms.processFill (trade.toReport setup.exchange) now) = came at *
      obtain ⟨result, middle⟩ := came
      obtain ⟨⟨applied, fits⟩, others⟩ := List.forall_mem_cons.mp applied
      obtain ⟨outcome, rfl⟩ := Ingestion.ofResult_applied applied fits
      -- The others leave what the first trade found or recorded, so it finds that again.
      have repeated := Terms.processFill_again (Store.perform_ok_iff.mp performed) orderly rfl
        ((setup.ingestAll_steady now next rest).1.trans steady) later
      rw [Store.perform_ok_iff.mpr repeated]
      dsimp only at steady ⊢
      rw [ih next others steady]
      rfl

theorem acknowledgements_left (orderly : engine.store.Orderly) (openOrders : List ExchangeOrder)
    (now : Instant) : ∀ order ∈ (engine.store.afterAll
        (setup.acknowledgements openOrders now engine.store)).orders, order.status = .new →
      order ∈ engine.store.orders ∧
        (order ∈ setup.waiting engine.store → numbering? openOrders order = none) := by
  have acknowledged : setup.Acknowledged openOrders now engine 0 (setup.waiting engine.store) _ _ :=
    acknowledgeOpen_ensures orderly
  have left := acknowledged.left
  rw [acknowledged.made] at left
  exact left

/-- After a cycle, no order waits any more that is open under a number. -/
theorem acknowledgements_caughtUp (orderly : engine.store.Orderly)
    (told : List ExchangeOrder × List ExchangeTrade) (now later : Instant) :
    setup.acknowledgements told.1 later (setup.caughtUp now engine.store told).2 = [] := by
  have acknowledged := Store.afterAll_orderly orderly
    (setup.acknowledgements told.1 now engine.store)
  obtain ⟨steady, -⟩ := setup.ingestAll_steady now acknowledged told.2
  refine acknowledgementsOf_eq_nil.mpr fun order waits => ?_
  obtain ⟨available, member, named, new⟩ := mem_waiting.mp waits
  obtain ⟨earlier, settled⟩ := acknowledgements_left orderly told.1 now order
    (steady.waiting order member new) new
  refine settled (mem_waiting.mpr ⟨?_, earlier, named, new⟩)
  rw [← available, ← Store.afterAll_unitOutage]
  exact steady.unitOutage.symm

/-- A cycle that is told the same again has nothing to do, if the trades could be applied. -/
theorem caughtUp_again (orderly : engine.store.Orderly)
    {told : List ExchangeOrder × List ExchangeTrade} {caught : List Ingestion × Store}
    (first : setup.caughtUp now engine.store told = caught)
    (applied : ∀ ingestion ∈ caught.1, ingestion.isError = false ∧ ingestion.isOverflow = false)
    (later : Instant) (health : List ConnectorHealth) :
    setup.acknowledgements told.1 later { caught.2 with health } = [] ∧
      setup.caughtUp later { caught.2 with health } told =
        (caught.1.map .again, { caught.2 with health }) := by
  subst first
  have nothing : setup.acknowledgements told.1 later
      { (setup.caughtUp now engine.store told).2 with health } = [] :=
    acknowledgements_caughtUp orderly told now later
  have steady : (setup.caughtUp now engine.store told).2.Steady
      { (setup.caughtUp now engine.store told).2 with health } :=
    ⟨fun _ _ _ => rfl, fun _ => id, fun _ member _ => member, rfl⟩
  refine ⟨nothing, ?_⟩
  unfold caughtUp at applied steady nothing ⊢
  rw [nothing]
  exact ingestAll_again (Store.afterAll_orderly orderly _) applied steady later

theorem cycleReport_trades {told : List ExchangeOrder × List ExchangeTrade}
    (fits : ∀ ingestion ∈ (setup.caughtUp now store told).1, ingestion.isOverflow = false) :
    let report := setup.cycleReport now store told
    report.trades = report.inserted + report.duplicates + report.unmapped + report.failed := by
  have counted := Ingestion.length_eq_countP (ingestAll_countedOnce fits)
  rw [length_ingestAll] at counted
  simp only [cycleReport, outset, CycleReport.tally, Nat.zero_add]
  exact counted

theorem tally_again {report : CycleReport} (came : List Ingestion) :
    report.tally (came.map Ingestion.again) = { report.tally came with
      inserted := report.inserted
      duplicates := report.duplicates +
        (came.countP (·.isInserted) + came.countP (·.isDuplicate)) } := by
  have unmapped :
      (came.map Ingestion.again).countP (·.isUnmapped) = came.countP (·.isUnmapped) := by
    refine Ingestion.countP_again fun ingestion => ?_
    cases ingestion with
    | fill outcome => cases outcome <;> rfl
    | _ => rfl
  have failed : (came.map Ingestion.again).countP (·.isError) = came.countP (·.isError) := by
    refine Ingestion.countP_again fun ingestion => ?_
    cases ingestion <;> rfl
  simp only [CycleReport.tally, Ingestion.countP_again_inserted, Ingestion.countP_again_duplicate,
    unmapped, failed, Nat.add_zero]

theorem cycleReport_again {told : List ExchangeOrder × List ExchangeTrade}
    (nothing : setup.acknowledgements told.1 later final = [])
    (caught : setup.caughtUp later final told =
      ((setup.caughtUp now store told).1.map .again, final)) :
    let report := setup.cycleReport now store told
    setup.cycleReport later final told = { report with
      acknowledged := 0
      inserted := 0
      duplicates := report.inserted + report.duplicates } := by
  unfold cycleReport
  rw [caught, tally_again]
  simp only [outset, nothing, CycleReport.tally, List.length_nil, Nat.zero_add]

/-- A cycle counts every trade that it is told in one place, and those that are inserted or are
duplicates have their executions recorded.  If every trade could be applied, a cycle that comes next
and is told the same finds duplicates where this one inserted, and leaves the store as it is but for
the health of connectors. -/
theorem cycles_catch_up_once (setup : Setup) {engine after : Engine} {now : Instant}
    {report : CycleReport} (reachable : engine.store.Reachable)
    (cycled : (setup.runCycle now).run.run engine = (.ok (.ok report), after)) :
    ∃ told, setup.told now engine.talk = .ok told ∧
      report = setup.cycleReport now engine.store told ∧
      report.trades = report.inserted + report.duplicates + report.unmapped + report.failed ∧
      List.Forall₂ (fun trade ingestion =>
          (ingestion.isInserted || ingestion.isDuplicate) = true →
            after.store.hasExecution (setup.exchange, trade.instrument, trade.tradeId) = true)
        told.2 (setup.caughtUp now engine.store told).1 ∧
      (report.failed = 0 → ∀ (again : Engine) (later : Instant),
        again.store = after.store → again.stopAt = none →
        setup.told later again.talk = .ok told → ∃ final,
          (setup.runCycle later).run.run again = (.ok (.ok { report with
            acknowledged := 0
            inserted := 0
            duplicates := report.inserted + report.duplicates }), final) ∧
          final.store = { after.store with health := final.store.health }) := by
  have orderly := reachable.orderly
  have ends := setup.runCycle_ends now orderly
  unfold Activity.Ensures at ends
  rw [cycled] at ends
  obtain ⟨told, heard, rfl, stored, fits⟩ := ends.done report rfl
  have acknowledged :=
    Store.afterAll_orderly orderly (setup.acknowledgements told.1 now engine.store)
  refine ⟨told, heard, rfl, cycleReport_trades fits, ?_, ?_⟩
  · rw [stored]
    exact ingestAll_recorded acknowledged told.2
  · intro complete again later same running alike
    have applied : ∀ ingestion ∈ (setup.caughtUp now engine.store told).1,
        ingestion.isError = false ∧ ingestion.isOverflow = false := by
      intro ingestion member
      refine ⟨?_, fits ingestion member⟩
      have none := (Nat.zero_add _).symm.trans complete
      exact Bool.eq_false_iff.mpr (List.countP_eq_zero.mp none ingestion member)
    obtain ⟨nothing, caught⟩ := caughtUp_again orderly rfl applied later after.store.health
    rw [← stored, ← same] at nothing caught
    have still : again.store.Orderly := by
      rw [same, stored]
      exact (setup.ingestAll_steady now acknowledged told.2).2.congr rfl
    have fitsAgain : ∀ ingestion ∈ (setup.caughtUp later again.store told).1,
        ingestion.isOverflow = false := by
      rw [caught]
      refine List.forall_mem_map.mpr fun ingestion member => ?_
      rw [Ingestion.isOverflow_again]
      exact fits ingestion member
    obtain ⟨final, reported, restored⟩ := runCycle_reports still running alike fitsAgain
    refine ⟨final, ?_, ?_⟩
    · rw [reported, cycleReport_again nothing caught]
      rfl
    · rw [restored, caught, same]

end Setup

namespace Sample

/-- A trade of one unit of an order, as the exchange tells of it. -/
def tradeOf (tradeId exchangeOrderId : String) : ExchangeTrade where
  tradeId
  exchangeOrderId
  instrument := "BTCUSDT"
  side := .buy
  quantity := units 1
  price := units 90
  feeAsset := some "USDT"
  fee := units 1
  executedAt := start

/-- The sample order waits here, while the exchange tells that it is open, and of a trade of it and
another of an order that is not known here. -/
def behind : Engine where
  store := .reached placed
  talk.answers := [.orders [remote "NEW"], .trades [tradeOf "t-1" "x-1", tradeOf "t-2" "x-2"]]
  health := .initial "binance" start

end Sample

namespace Setup

/-- A cycle acknowledges the sample order and inserts its trade; the next finds it, whenever it
comes. -/
theorem sample_cycles_catch_up_once :
    ∃ after, (Sample.setup.runCycle Sample.start).run.run Sample.behind =
        (.ok (.ok ⟨1, 1, 2, 1, 0, 1, 0⟩), after) ∧
      ∀ later, ∃ final, (Sample.setup.runCycle later).run.run
          { after with talk := Sample.behind.talk, stopAt := none } =
            (.ok (.ok ⟨1, 0, 2, 0, 1, 1, 0⟩), final) ∧
        final.store = { after.store with health := final.store.health } := by
  have stored : Sample.behind.store = .reached Sample.placed := by rw [Sample.behind]
  have reachable : Sample.behind.store.Reachable := by
    rw [stored]
    exact Store.reached_reachable Sample.placed
  have reported : ((Sample.setup.runCycle Sample.start).run.run Sample.behind).1 =
      .ok (.ok ⟨1, 1, 2, 1, 0, 1, 0⟩) := by decide +kernel
  obtain ⟨after, cycled⟩ : ∃ after, (Sample.setup.runCycle Sample.start).run.run Sample.behind =
      (.ok (.ok ⟨1, 1, 2, 1, 0, 1, 0⟩), after) := ⟨_, Prod.ext reported rfl⟩
  obtain ⟨told, heard, -, -, -, again⟩ := cycles_catch_up_once Sample.setup reachable cycled
  refine ⟨after, cycled, fun later => ?_⟩
  exact again rfl { after with talk := Sample.behind.talk, stopAt := none } later rfl rfl
    ((told_alike ⟨rfl, rfl⟩).trans heard)

end Setup

end SpotSettlement
