import SpotSettlement.Proofs.Engine.Hearing
import SpotSettlement.Proofs.Engine.Sessions
import SpotSettlement.Proofs.Settlement.Awaiting

namespace SpotSettlement

/-! # What a cycle does

A cycle acknowledges the orders that wait and are open under a number, then ingests plainly the
trades that it is told.  Nothing else changes in the store but the health of the connector.
-/

open Activity

namespace Setup

variable {setup : Setup} {openOrders : List ExchangeOrder} {now later : Instant} {engine : Engine}
  {store after : Store} {order : Order} {orders : List Order}

/-- The open order that gives an order its number at the exchange. -/
def numbering? (openOrders : List ExchangeOrder) (order : Order) : Option ExchangeOrder :=
  (openOrderOf? openOrders order.outboundClientOrderId).filter fun remote =>
    !Text.isBlank remote.exchangeOrderId

/-- The orders that wait for their acknowledgement, if the store can be reached. -/
def waiting (setup : Setup) (store : Store) : List Order :=
  if store.unitOutage.isSome then [] else store.ordersByStatus setup.exchange .new

/-- The acknowledgements of those orders that are open under a number. -/
def acknowledgementsOf (setup : Setup) (openOrders : List ExchangeOrder) (now : Instant)
    (orders : List Order) : List Request :=
  orders.filterMap fun order => (numbering? openOrders order).map fun remote =>
    .settle (.acknowledge order.id setup.exchange remote.exchangeOrderId remote.clientOrderId)
      setup.terms now

def acknowledgements (setup : Setup) (openOrders : List ExchangeOrder) (now : Instant)
    (store : Store) : List Request :=
  setup.acknowledgementsOf openOrders now (setup.waiting store)

theorem mem_waiting : order ∈ setup.waiting store ↔ store.unitOutage = none ∧
    order ∈ store.orders ∧ order.exchange = setup.exchange ∧ order.status = .new := by
  unfold waiting
  cases store.unitOutage with
  | none => simp [Store.ordersByStatus]
  | some problem => simp

theorem acknowledgementsOf_eq_nil : setup.acknowledgementsOf openOrders now orders = [] ↔
    ∀ order ∈ orders, numbering? openOrders order = none := by
  simp [acknowledgementsOf]

theorem waiting_awaits (orderly : store.Orderly) (available : store.unitOutage = none) :
    store.Awaits (setup.waiting store) where
  orderly := orderly
  available := available
  waiting order listed :=
    have waits := mem_waiting.mp listed
    ⟨waits.2.1, waits.2.2.2⟩
  distinct := by
    have filtered : ((store.orders.filter fun order =>
        order.exchange == setup.exchange && order.status == .new).map (·.id)).Nodup :=
      (List.filter_sublist.map _).nodup orderly.unique
    unfold waiting
    rw [available]
    exact ((List.mergeSort_perm _ _).map _).nodup_iff.mpr filtered

/-- Orders that wait are acknowledged as far as they are open under a number, and then wait no
longer. -/
structure Acknowledged (setup : Setup) (openOrders : List ExchangeOrder) (now : Instant)
    (engine : Engine) (count : Nat) (orders : List Order) (result : Except Interruption Nat)
    (after : Engine) : Prop where
  counted : result = .ok (count + (setup.acknowledgementsOf openOrders now orders).length)
  made : after = { engine with
    store := engine.store.afterAll (setup.acknowledgementsOf openOrders now orders) }
  left : ∀ order ∈ after.store.orders, order.status = .new → order ∈ engine.store.orders ∧
    (order ∈ orders → numbering? openOrders order = none)

theorem acknowledgeOpenOrder_ensures (awaits : engine.store.Awaits (order :: orders))
    (count : Nat) :
    (setup.acknowledgeOpenOrder openOrders now count order).Ensures engine fun result after =>
      setup.Acknowledged openOrders now engine count [order] result after ∧
        after.store.Awaits orders := by
  have skipped : numbering? openOrders order = none →
      setup.Acknowledged openOrders now engine count [order] (.ok count) engine ∧
        engine.store.Awaits orders := by
    intro unnumbered
    have nothing : setup.acknowledgementsOf openOrders now [order] = [] :=
      acknowledgementsOf_eq_nil.mpr (by simpa using unnumbered)
    refine ⟨⟨by rw [nothing]; rfl, by rw [nothing]; rfl, ?_⟩, awaits.skip⟩
    intro other member _
    exact ⟨member, fun same => List.mem_singleton.mp same ▸ unnumbered⟩
  unfold acknowledgeOpenOrder
  cases known : openOrderOf? openOrders order.outboundClientOrderId with
  | none => exact skipped (by rw [numbering?, known]; rfl)
  | some remote =>
      cases blank : Text.isBlank remote.exchangeOrderId with
      | true =>
          obtain ⟨cause, refused⟩ := setup.terms.acknowledgeOrder_refuses awaits.orderly
            awaits.available (awaits.waiting order List.mem_cons_self).1 blank setup.exchange
            remote.clientOrderId now
          refine ensures_bind (Engine.perform_ensures_refused refused ?_)
          exact skipped (by rw [numbering?, known, Option.filter_some, blank]; rfl)
      | false =>
          obtain ⟨transition, moved, next, done, same, acknowledged, orders, awaiting⟩ :=
            awaits.acknowledge setup.terms blank setup.exchange remote.clientOrderId now
          have numbered : numbering? openOrders order = some remote := by
            rw [numbering?, known, Option.filter_some, blank]
            rfl
          have one : setup.acknowledgementsOf openOrders now [order] = [.settle (.acknowledge
              order.id setup.exchange remote.exchangeOrderId remote.clientOrderId) setup.terms
                now] := by
            simp [acknowledgementsOf, numbered]
          have applied : engine.store.afterAll (setup.acknowledgementsOf openOrders now [order]) =
              next := by
            rw [one]
            exact congrArg Prod.snd done
          refine ensures_bind (Engine.perform_ensures_done done ?_)
          refine ⟨⟨by rw [one]; rfl, by rw [applied]; rfl, ?_⟩, awaiting⟩
          intro other member new
          obtain ⟨earlier, apart⟩ | rfl := Store.mem_replaceOrder (orders ▸ member)
          · refine ⟨earlier, fun listed => ?_⟩
            rw [List.mem_singleton.mp listed, same] at apart
            contradiction
          · rw [acknowledged] at new
            contradiction

theorem foldlM_acknowledge (awaits : engine.store.Awaits orders) (count : Nat) :
    (orders.foldlM (setup.acknowledgeOpenOrder openOrders now) count).Ensures engine
      (setup.Acknowledged openOrders now engine count orders) := by
  induction orders generalizing engine count with
  | nil => exact ⟨rfl, rfl, fun _ member _ => ⟨member, nofun⟩⟩
  | cons order rest ih =>
      rw [List.foldlM_cons]
      refine ensures_bind ((acknowledgeOpenOrder_ensures awaits count).mono ?_)
      rintro result middle ⟨first, awaiting⟩
      rw [first.counted]
      refine (ih awaiting _).mono fun result after others => ?_
      have split : setup.acknowledgementsOf openOrders now (order :: rest) =
          setup.acknowledgementsOf openOrders now [order] ++
            setup.acknowledgementsOf openOrders now rest := by
        rw [acknowledgementsOf, ← List.singleton_append, List.filterMap_append]
        rfl
      refine ⟨?_, ?_, ?_⟩
      · rw [others.counted, split, List.length_append, Nat.add_assoc]
      · rw [others.made, first.made, split, Store.afterAll_append]
      · intro other member new
        obtain ⟨between, answered⟩ := others.left other member new
        obtain ⟨earlier, answeredFirst⟩ := first.left other between new
        refine ⟨earlier, fun listed => ?_⟩
        obtain rfl | later := List.mem_cons.mp listed
        · exact answeredFirst (List.mem_singleton_self _)
        · exact answered later

theorem acknowledgeOpen_ensures (orderly : engine.store.Orderly) :
    (setup.acknowledgeOpen openOrders now).Ensures engine
      (setup.Acknowledged openOrders now engine 0 (setup.waiting engine.store)) := by
  have idle : setup.acknowledgements openOrders now engine.store = [] →
      setup.Acknowledged openOrders now engine 0 (setup.waiting engine.store) (.ok 0) engine := by
    intro nothing
    unfold acknowledgements at nothing
    refine ⟨by rw [nothing]; rfl, by rw [nothing]; rfl, fun order member _ => ⟨member, ?_⟩⟩
    exact acknowledgementsOf_eq_nil.mp nothing order
  unfold acknowledgeOpen
  split
  · next unnamed =>
      refine idle (acknowledgementsOf_eq_nil.mpr fun order _ => ?_)
      have unlisted : openOrderOf? openOrders order.outboundClientOrderId = none := by
        rw [openOrderOf?, List.find?_eq_none]
        intro remote listed
        have nameless := List.all_eq_true.mp unnamed remote (List.mem_reverse.mp listed)
        rw [Option.isNone_iff_eq_none.mp nameless]
        exact Bool.false_ne_true
      rw [numbering?, unlisted]
      rfl
  · cases outage : engine.store.unitOutage with
    | some problem =>
        have refused : (Terms.awaitingAcknowledgement setup.exchange).run engine.store =
            .error (.refused (.store (.storage problem))) := by
          simp only [Terms.awaitingAcknowledgement, Work.start, StateT.run_bind, StateT.run_get,
            pure_bind, outage]
          rfl
        refine ensures_bind (Engine.perform_ensures_refused refused (idle ?_))
        rw [acknowledgements, waiting, outage]
        rfl
    | none =>
        have listed : setup.waiting engine.store =
            engine.store.ordersByStatus setup.exchange .new := by
          rw [waiting, outage]
          rfl
        have found : engine.store.perform (Terms.awaitingAcknowledgement setup.exchange) =
            (.ok (setup.waiting engine.store), engine.store) := by
          have begins : Work.start.run engine.store = .ok ((), engine.store) :=
            Work.start_ok.mpr ⟨outage, rfl⟩
          rw [Store.perform_ok_iff, listed, Terms.awaitingAcknowledgement,
            Work.run_bind_of_ok begins]
          rfl
        refine ensures_bind (Engine.perform_ensures_done found ?_)
        exact foldlM_acknowledge (waiting_awaits orderly outage) 0

/-- The report with what came of some trades counted. -/
def CycleReport.tally (report : CycleReport) (came : List Ingestion) : CycleReport :=
  { report with
    inserted := report.inserted + came.countP (·.isInserted)
    duplicates := report.duplicates + came.countP (·.isDuplicate)
    unmapped := report.unmapped + came.countP (·.isUnmapped)
    failed := report.failed + came.countP (·.isError) }

theorem CycleReport.tally_append (report : CycleReport) (early later : List Ingestion) :
    report.tally (early ++ later) = (report.tally early).tally later := by
  simp only [tally, List.countP_append, Nat.add_assoc]

/-- The trades as reports to be ingested. -/
def readings (setup : Setup) (trades : List ExchangeTrade) : List StreamReading :=
  trades.map fun trade => .ok (.execution (trade.toReport setup.exchange))

end Setup

namespace Terms

variable {terms : Terms} {now : Instant}

theorem ingestAll_append (store : Store) (early later : List StreamReading) :
    terms.ingestAll now store (early ++ later) =
      ((terms.ingestAll now store early).1 ++
        (terms.ingestAll now (terms.ingestAll now store early).2 later).1,
        (terms.ingestAll now (terms.ingestAll now store early).2 later).2) := by
  induction early generalizing store with
  | nil => rfl
  | cons reading rest ih =>
      rw [List.cons_append, ingestAll, ingestAll]
      dsimp only
      rw [ih]
      rfl

end Terms

namespace Setup

variable {setup : Setup} {now : Instant} {engine : Engine} {trades : List ExchangeTrade}

/-- What came of trades was counted, unless the numbers of one of them did not fit. -/
structure Tallied (engine : Engine) (report : CycleReport) (came : List Ingestion × Store)
    (result : Except Interruption CycleReport) (after : Engine) : Prop where
  counted : ∀ total, result = .ok total → total = report.tally came.1 ∧
    after = { engine with store := came.2 } ∧ ∀ ingestion ∈ came.1, ingestion.isOverflow = false
  overflowed : ∀ stop, result = .error stop → ∃ ingestion ∈ came.1, ingestion.isOverflow = true

theorem tallied_of_fits {came : List Ingestion × Store} {report total : CycleReport}
    (same : total = report.tally came.1)
    (fits : ∀ ingestion ∈ came.1, ingestion.isOverflow = false) :
    Tallied engine report came (.ok total) { engine with store := came.2 } where
  counted _ counted := ⟨Except.ok.inj counted ▸ same, rfl, fits⟩
  overflowed := nofun

theorem ingestTrade_tallied (report : CycleReport) (trade : ExchangeTrade) :
    (setup.ingestTrade now report trade).Ensures engine (Tallied engine report
      (setup.terms.ingestAll now engine.store (setup.readings [trade]))) := by
  have plainly : setup.terms.ingestAll now engine.store (setup.readings [trade]) =
      let first := engine.store.perform
        (setup.terms.processFill (trade.toReport setup.exchange) now)
      ([.ofResult .fill first.1], first.2) := rfl
  refine ensures_bind (Engine.perform_ensures ?_ ?_ ?_)
  · intro outcome after done
    rw [plainly, done]
    refine tallied_of_fits ?_ (List.forall_mem_singleton.mpr rfl)
    cases outcome <;> rfl
  · intro cause refused
    rw [plainly, refused]
    exact tallied_of_fits rfl (List.forall_mem_singleton.mpr rfl)
  · intro operation overflow
    rw [plainly, overflow]
    exact ⟨nofun, fun _ _ => ⟨_, List.mem_singleton_self _, rfl⟩⟩

theorem foldlM_ingestTrade_tallied (report : CycleReport) :
    (trades.foldlM (setup.ingestTrade now) report).Ensures engine (Tallied engine report
      (setup.terms.ingestAll now engine.store (setup.readings trades))) := by
  induction trades generalizing engine report with
  | nil => exact tallied_of_fits rfl (List.forall_mem_nil _)
  | cons trade rest ih =>
      have split : setup.terms.ingestAll now engine.store (setup.readings (trade :: rest)) = _ :=
        Terms.ingestAll_append engine.store (setup.readings [trade]) (setup.readings rest)
      rw [List.foldlM_cons, split]
      refine ensures_bind ((ingestTrade_tallied report trade).mono ?_)
      intro result middle first
      cases result with
      | error stop =>
          obtain ⟨ingestion, member, overflow⟩ := first.overflowed stop rfl
          exact ⟨nofun, fun _ _ => ⟨ingestion, List.mem_append_left _ member, overflow⟩⟩
      | ok total =>
          obtain ⟨rfl, rfl, fits⟩ := first.counted total rfl
          refine (ih _).mono fun result after others => ⟨fun total same => ?_, fun stop same => ?_⟩
          · obtain ⟨rfl, rfl, restFits⟩ := others.counted total same
            exact ⟨(report.tally_append ..).symm, rfl, List.forall_mem_append.mpr ⟨fits, restFits⟩⟩
          · obtain ⟨ingestion, member, overflow⟩ := others.overflowed stop same
            exact ⟨ingestion, List.mem_append_right _ member, overflow⟩

/-- A cycle ends as the exchange is heard: with its error, or with what came of all that it told.
Only a number that does not fit, or a stop, ends the cycle before. -/
structure EndsAsHeard {α : Type} (engine : Engine) (heard : Except ExchangeError α)
    (came : α → List Ingestion × Store) (report : α → CycleReport)
    (result : Except Interruption (Except ExchangeError CycleReport)) (after : Engine) : Prop where
  done : ∀ total, result = .ok (.ok total) → ∃ told, heard = .ok told ∧
    total = (report told).tally (came told).1 ∧
    after.store = { (came told).2 with health := after.store.health } ∧
    ∀ ingestion ∈ (came told).1, ingestion.isOverflow = false
  failed : ∀ error, result = .ok (.error error) → heard = .error error
  interrupted : ∀ stop, result = .error stop → engine.stopAt ≠ none ∨
    ∀ told, heard = .ok told → ∃ ingestion ∈ (came told).1, ingestion.isOverflow = true

theorem EndsAsHeard.map {α β : Type} {middle after : Engine} {heard : Except ExchangeError α}
    {came : α → List Ingestion × Store} {report : α → CycleReport}
    {result : Except Interruption (Except ExchangeError CycleReport)}
    {whole : β → List Ingestion × Store} {base : β → CycleReport} (early : List Ingestion)
    (fits : ∀ ingestion ∈ early, ingestion.isOverflow = false) (told : α → β)
    (ends : EndsAsHeard middle heard came report result after)
    (stopAt : middle.stopAt = engine.stopAt)
    (split : ∀ a, whole (told a) = (early ++ (came a).1, (came a).2))
    (counted : ∀ a, report a = (base (told a)).tally early) :
    EndsAsHeard engine (heard.map told) whole base result after where
  done total same := by
    obtain ⟨a, rfl, rfl, stored, laterFits⟩ := ends.done total same
    refine ⟨told a, rfl, ?_⟩
    rw [split, counted]
    exact ⟨(CycleReport.tally_append ..).symm, stored, List.forall_mem_append.mpr ⟨fits, laterFits⟩⟩
  failed error same := by
    rw [ends.failed error same]
    rfl
  interrupted stop same := by
    obtain stopped | overflowed := ends.interrupted stop same
    · exact .inl (stopAt ▸ stopped)
    · refine .inr fun _ mapped => ?_
      obtain ⟨a, heard, rfl⟩ := map_ok_iff.mp mapped
      obtain ⟨ingestion, member, overflow⟩ := overflowed a heard
      rw [split]
      exact ⟨ingestion, List.mem_append_right _ member, overflow⟩

/-- Where the exchange answers with an error, the cycle ends with it; else it goes on. -/
theorem ask_ends {α β : Type} {call : ExchangeCall} {fits : ExchangeAnswer → Option α}
    {goOn : Except ExchangeError α → Activity (Except ExchangeError CycleReport)}
    {others : α → ExceptT ExchangeError (StateM ExchangeTalk) β}
    {whole : β → List Ingestion × Store} {base : β → CycleReport}
    (failed : ∀ error, goOn (.error error) = pure (.error error))
    (rest : ∀ answer talk waited, (goOn (.ok answer)).Ensures { engine with talk, waited }
      (EndsAsHeard engine ((others answer).run.run talk).1 whole base)) :
    (setup.ask call fits >>= goOn).Ensures engine (EndsAsHeard engine
      ((setup.hear call fits >>= others).run.run engine.talk).1 whole base) := by
  refine ensures_bind ((setup.ask_hears call fits).mono ?_)
  rintro result middle ⟨kept, answered, stopped⟩
  generalize middle.talk = talk, middle.waited = waited at kept answered
  subst kept
  cases result with
  | error stop => exact ⟨nofun, nofun, fun _ _ => .inl (stopped stop rfl)⟩
  | ok answer =>
      have heard := answered answer rfl
      cases answer with
      | error error =>
          rw [heard_bind_of_error heard]
          dsimp only
          rw [failed]
          exact ⟨nofun, fun _ same => by cases same; rfl, nofun⟩
      | ok answer =>
          rw [heard_bind_of_ok heard]
          exact rest answer talk waited

theorem ingestTrades_ends (report : CycleReport) (instruments : List String) :
    (setup.ingestTrades now report instruments).Ensures engine (EndsAsHeard engine
      ((setup.hearTrades (now.before setup.lookback) instruments).run.run engine.talk).1
      (fun trades => setup.terms.ingestAll now engine.store (setup.readings trades))
      fun trades => { report with trades := report.trades + trades.length }) := by
  induction instruments generalizing engine report with
  | nil =>
      refine ⟨fun total same => ⟨[], rfl, ?_, rfl, List.forall_mem_nil _⟩, nofun, nofun⟩
      exact (Except.ok.inj (Except.ok.inj same)).symm
  | cons instrument rest ih =>
      rw [ingestTrades, hearTrades]
      refine ask_ends (fun _ => rfl) fun trades talk waited => ?_
      have split : ∀ others,
          setup.terms.ingestAll now engine.store (setup.readings (trades ++ others)) = _ :=
        fun others => (congrArg _ List.map_append).trans
          (Terms.ingestAll_append engine.store (setup.readings trades) _)
      rw [heard_map]
      refine ensures_bind ((foldlM_ingestTrade_tallied _).mono ?_)
      intro result middle first
      cases result with
      | error stop =>
          obtain ⟨ingestion, member, overflow⟩ := first.overflowed stop rfl
          refine ⟨nofun, nofun, fun _ _ => .inr fun told mapped => ?_⟩
          obtain ⟨others, -, rfl⟩ := map_ok_iff.mp mapped
          rw [split]
          exact ⟨ingestion, List.mem_append_left _ member, overflow⟩
      | ok total =>
          obtain ⟨rfl, rfl, fits⟩ := first.counted total rfl
          refine (ih _).mono fun result after ends => ?_
          refine ends.map _ fits (trades ++ ·) rfl split fun others => ?_
          simp only [CycleReport.tally, List.length_append, Nat.add_assoc]

/-- What comes of the trades that a cycle is told, and the store then. -/
def caughtUp (setup : Setup) (now : Instant) (store : Store)
    (told : List ExchangeOrder × List ExchangeTrade) : List Ingestion × Store :=
  setup.terms.ingestAll now (store.afterAll (setup.acknowledgements told.1 now store))
    (setup.readings told.2)

/-- What a cycle has to report before it ingests the trades that it is told. -/
def outset (setup : Setup) (now : Instant) (store : Store)
    (told : List ExchangeOrder × List ExchangeTrade) : CycleReport where
  openOrders := told.1.length
  acknowledged := (setup.acknowledgements told.1 now store).length
  trades := told.2.length

def cycleReport (setup : Setup) (now : Instant) (store : Store)
    (told : List ExchangeOrder × List ExchangeTrade) : CycleReport :=
  (setup.outset now store told).tally (setup.caughtUp now store told).1

theorem reconcile_ends (orderly : engine.store.Orderly) :
    (setup.reconcile now).Ensures engine (EndsAsHeard engine (setup.told now engine.talk)
      (setup.caughtUp now engine.store) (setup.outset now engine.store)) := by
  rw [reconcile, told, hearCycle]
  refine ask_ends (fun _ => rfl) fun openOrders talk waited => ?_
  rw [heard_map]
  refine ensures_bind ((acknowledgeOpen_ensures ?_).mono ?_)
  · exact orderly
  · intro result middle acknowledged
    rw [acknowledged.counted, acknowledged.made]
    refine (ingestTrades_ends _ _).mono fun result after ends => ?_
    refine ends.map [] (List.forall_mem_nil _) (openOrders, ·) rfl (fun _ => rfl) fun _ => ?_
    simp only [CycleReport.tally, List.countP_nil, Nat.zero_add, Nat.add_zero]
    rfl

/-- A cycle acknowledges the orders that wait and are open, ingests the trades that it is told, and
reports what came of them. -/
theorem runCycle_ends (setup : Setup) (now : Instant) (orderly : engine.store.Orderly) :
    (setup.runCycle now).Ensures engine (EndsAsHeard engine (setup.told now engine.talk)
      (setup.caughtUp now engine.store) (setup.outset now engine.store)) := by
  refine ensures_bind ((reconcile_ends orderly).mono ?_)
  intro result middle ends
  cases result with
  | error stop => exact ends
  | ok result =>
      refine ensures_bind (Engine.updateHealth_ensures fun rows => ⟨?_, ends.failed, nofun⟩)
      intro total same
      obtain ⟨told, heard, counted, stored, fits⟩ := ends.done total same
      exact ⟨told, heard, counted, by rw [stored]; rfl, fits⟩

/-- If it is told something, and neither a number that does not fit nor a stop comes in between, a
cycle reports. -/
theorem runCycle_reports (orderly : engine.store.Orderly) (running : engine.stopAt = none)
    {told : List ExchangeOrder × List ExchangeTrade} (heard : setup.told now engine.talk = .ok told)
    (fits : ∀ ingestion ∈ (setup.caughtUp now engine.store told).1, ingestion.isOverflow = false) :
    ∃ after, (setup.runCycle now).run.run engine =
        (.ok (.ok (setup.cycleReport now engine.store told)), after) ∧
      after.store = { (setup.caughtUp now engine.store told).2 with
        health := after.store.health } := by
  have ends := setup.runCycle_ends now orderly
  unfold Ensures at ends
  generalize (setup.runCycle now).run.run engine = ended at *
  obtain ⟨result, after⟩ := ended
  cases result with
  | error stop =>
      obtain stopped | overflowed := ends.interrupted stop rfl
      · exact absurd running stopped
      · obtain ⟨ingestion, member, overflow⟩ := overflowed told heard
        rw [fits ingestion member] at overflow
        contradiction
  | ok result =>
      cases result with
      | error error => exact absurd (heard.symm.trans (ends.failed error rfl)) nofun
      | ok total =>
          obtain ⟨_, again, rfl, stored, -⟩ := ends.done total rfl
          obtain rfl := Except.ok.inj (heard.symm.trans again)
          exact ⟨after, rfl, stored⟩

end Setup

end SpotSettlement
