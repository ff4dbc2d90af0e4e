import SpotSettlement.Proofs.Settlement.Fills
import SpotSettlement.Proofs.Wallet.Moments

namespace SpotSettlement

/-! # Fills at different moments

Two reports of a trade that move their order alike do the same to orders and funds, at whatever
moments they are applied.
-/

open Decimal

def Order.undated (order : Order) : Order :=
  { order with createdAt := default, updatedAt := default }

theorem Order.eq_of_undated {order twin : Order} (same : order.undated = twin.undated) :
    ∃ created updated, twin = { order with createdAt := created, updatedAt := updated } := by
  cases order
  cases twin
  simp only [undated, mk.injEq, and_true] at same
  obtain ⟨rfl, rfl, rfl, rfl, rfl, rfl, rfl, rfl, rfl, rfl, rfl, rfl, rfl⟩ := same
  exact ⟨_, _, rfl⟩

namespace Store

/-- Apart from moments the stores have the same orders and funds, and they have handed out as many
identifiers. -/
structure Alike (store twin : Store) : Prop where
  orders : store.orders.map (·.undated) = twin.orders.map (·.undated)
  balances : store.balances.map (·.undated) = twin.balances.map (·.undated)
  reservations : store.reservations.map (·.undated) = twin.reservations.map (·.undated)
  minted : store.minted = twin.minted

theorem Alike.refl (store : Store) : store.Alike store := ⟨rfl, rfl, rfl, rfl⟩

theorem find?_alike {α : Type} {undated : α → α} {selects : α → Bool} {rows others : List α}
    (same : rows.map undated = others.map undated) (blind : selects ∘ undated = selects) :
    (rows.find? selects).map undated = (others.find? selects).map undated := by
  have finds : ∀ rows : List α,
      (rows.find? selects).map undated = (rows.map undated).find? selects := by
    intro rows
    rw [List.find?_map, blind]
  rw [finds, finds, same]

namespace Alike

variable {store twin : Store} {balance image : WalletBalance} {held imageHeld : WalletReservation}
  {order imageOrder : Order}

theorem balance? (alike : store.Alike twin) (account asset : String) :
    (store.balance? account asset).map (·.undated) =
      (twin.balance? account asset).map (·.undated) :=
  find?_alike alike.balances rfl

theorem balanceOf (alike : store.Alike twin) (account asset : String) (now later : Instant) :
    (store.balanceOf account asset now).undated = (twin.balanceOf account asset later).undated := by
  have same := alike.balance? account asset
  unfold Store.balanceOf
  cases found : store.balance? account asset <;> cases imaged : twin.balance? account asset <;>
    simp [found, imaged] at same
  · rfl
  · exact same

theorem order? (alike : store.Alike twin) (id : String) :
    (store.order? id).map (·.undated) = (twin.order? id).map (·.undated) :=
  find?_alike alike.orders rfl

theorem activeReservation? (alike : store.Alike twin) (orderId : String) :
    (store.activeReservation? orderId).map (·.undated) =
      (twin.activeReservation? orderId).map (·.undated) :=
  find?_alike alike.reservations rfl

theorem map_undated_putBalance (balance : WalletBalance) (balances : List WalletBalance) :
    (putBalance balance balances).map (·.undated) =
      putBalance balance.undated (balances.map (·.undated)) := by
  induction balances with
  | nil => rfl
  | cons row rest ih =>
      simp only [putBalance, List.map_cons, WalletBalance.undated]
      split
      · rfl
      · exact congrArg _ ih

theorem withBalance (alike : store.Alike twin) (same : balance.undated = image.undated) :
    (store.withBalance balance).Alike (twin.withBalance image) := by
  refine ⟨alike.orders, ?_, alike.reservations, alike.minted⟩
  rw [Store.withBalance, Store.withBalance, map_undated_putBalance, map_undated_putBalance, same,
    alike.balances]

theorem map_undated_putReservation (held : WalletReservation)
    (reservations : List WalletReservation) :
    (putReservation held reservations).map (·.undated) =
      putReservation held.undated (reservations.map (·.undated)) := by
  induction reservations with
  | nil => rfl
  | cons row rest ih =>
      simp only [putReservation, List.map_cons, WalletReservation.undated]
      split
      · rfl
      · exact congrArg _ ih

theorem withReservation (alike : store.Alike twin) (same : held.undated = imageHeld.undated) :
    (store.withReservation held).Alike (twin.withReservation imageHeld) := by
  refine ⟨alike.orders, alike.balances, ?_, alike.minted⟩
  rw [Store.withReservation, Store.withReservation, map_undated_putReservation,
    map_undated_putReservation, same, alike.reservations]

theorem map_undated_replaceOrder (order : Order) (orders : List Order) :
    (replaceOrder order orders).map (·.undated) =
      replaceOrder order.undated (orders.map (·.undated)) := by
  rw [replaceOrder, replaceOrder, List.map_map, List.map_map]
  apply List.map_congr_left
  intro row _
  exact apply_ite Order.undated _ _ _

theorem withOrder (alike : store.Alike twin) (same : order.undated = imageOrder.undated) :
    (store.withOrder order).Alike (twin.withOrder imageOrder) := by
  refine ⟨?_, alike.balances, alike.reservations, alike.minted⟩
  rw [Store.withOrder, Store.withOrder, map_undated_replaceOrder, map_undated_replaceOrder, same,
    alike.orders]

theorem has_reservation (alike : store.Alike twin) (id : String) :
    store.reservations.any (·.id == id) = twin.reservations.any (·.id == id) := by
  have asks : ∀ reservations : List WalletReservation, reservations.any (·.id == id) =
      (reservations.map (·.undated)).any (·.id == id) := by
    intro reservations
    rw [List.any_map]
    rfl
  rw [asks store.reservations, asks twin.reservations, alike.reservations]

end Alike

end Store

namespace Work

variable {ε α β α' β' : Type} {related : α → β → Prop} {after : α' → β' → Prop}

/-- From stores that are alike, whatever the one work does the other does alike. -/
def Mirrors (related : α → β → Prop) (work : Work α) (mirrored : Work β) : Prop :=
  ∀ store twin : Store, store.Alike twin → SpotSettlement.Mirrors
    (fun done image => related done.1 image.1 ∧ done.2.Alike image.2)
    (work.run store) (mirrored.run twin)

namespace Mirrors

theorem pure {value : α} {image : β} (holds : related value image) :
    Mirrors related (pure value) (pure image) := by
  intro store twin alike
  exact SpotSettlement.Mirrors.pure ⟨holds, alike⟩

theorem bind {work : Work α} {mirrored : Work β} {rest : α → Work α'} {mirroredRest : β → Work β'}
    (first : Mirrors related work mirrored)
    (others : ∀ value image, related value image → Mirrors after (rest value) (mirroredRest image)) :
    Mirrors after (work >>= rest) (mirrored >>= mirroredRest) := by
  intro store twin alike
  rw [StateT.run_bind, StateT.run_bind]
  refine (first store twin alike).bind ?_
  rintro ⟨value, middle⟩ ⟨image, imageMiddle⟩ ⟨holds, still⟩
  exact others value image holds middle imageMiddle still

theorem foldlM {γ : Type} {step : α → γ → Work α} {mirroredStep : β → γ → Work β}
    (each : ∀ value image item, related value image →
      Mirrors related (step value item) (mirroredStep image item))
    {value : α} {image : β} (holds : related value image) (items : List γ) :
    Mirrors related (items.foldlM step value) (items.foldlM mirroredStep image) := by
  induction items generalizing value image with
  | nil => exact pure holds
  | cons item rest ih =>
      rw [List.foldlM_cons, List.foldlM_cons]
      exact (each value image item holds).bind fun _ _ still => ih still

theorem get_bind {rest : Store → Work α'} {mirroredRest : Store → Work β'}
    (others : ∀ store twin, store.Alike twin → Mirrors after (rest store) (mirroredRest twin)) :
    Mirrors after (get >>= rest) (get >>= mirroredRest) := by
  intro store twin alike
  rw [StateT.run_bind, StateT.run_get, pure_bind, StateT.run_bind, StateT.run_get, pure_bind]
  exact others store twin alike store twin alike

theorem failing {outcome : Except Failure α} {mirrored : Except Failure β}
    (given : SpotSettlement.Mirrors related outcome mirrored) :
    Mirrors related (liftM outcome : Work α) (liftM mirrored) := by
  rintro store twin alike ⟨value, store⟩ done
  obtain ⟨succeeded, rfl⟩ := failing_ok.mp done
  obtain ⟨image, imaged, holds⟩ := given value succeeded
  exact ⟨(image, twin), failing_ok.mpr ⟨imaged, rfl⟩, holds, alike⟩

theorem lift [Cause ε] {outcome : Except ε α} {mirrored : Except ε β}
    (given : SpotSettlement.Mirrors related outcome mirrored) :
    Mirrors related (liftM outcome : Work α) (liftM mirrored) := by
  rintro store twin alike ⟨value, store⟩ done
  obtain ⟨succeeded, rfl⟩ := lift_ok.mp done
  obtain ⟨image, imaged, holds⟩ := given value succeeded
  exact ⟨(image, twin), lift_ok.mpr ⟨imaged, rfl⟩, holds, alike⟩

theorem modify {change mirrored : Store → Store}
    (kept : ∀ store twin, store.Alike twin → (change store).Alike (mirrored twin)) :
    Mirrors (fun _ _ => True) (modify change : Work PUnit) (modify mirrored) := by
  intro store twin alike
  simp only [StateT.run_modify]
  exact SpotSettlement.Mirrors.pure ⟨trivial, kept store twin alike⟩

theorem mint : Mirrors Eq Store.mint Store.mint := by
  rintro store twin alike ⟨id, store⟩ done
  obtain ⟨rfl, rfl⟩ := Store.mint_ok.mp done
  refine ⟨_, Store.mint_ok.mpr ⟨rfl, rfl⟩, ?_, ?_⟩
  · rw [alike.minted]
  · exact ⟨alike.orders, alike.balances, alike.reservations, congrArg (· + 1) alike.minted⟩

theorem claimBalance (account asset : String) (now later : Instant) :
    Mirrors (·.undated = ·.undated) (Store.claimBalance account asset now)
      (Store.claimBalance account asset later) := by
  rintro store twin alike ⟨balance, store⟩ done
  obtain ⟨rfl, rfl⟩ := Store.claimBalance_ok.mp done
  have same := alike.balanceOf account asset now later
  exact ⟨(_, _), Store.claimBalance_ok.mpr ⟨rfl, rfl⟩, same, alike.withBalance same⟩

theorem saveBalance {balance image : WalletBalance} (same : balance.undated = image.undated) :
    Mirrors (fun _ _ => True) (Store.saveBalance balance) (Store.saveBalance image) :=
  modify fun _ _ alike => alike.withBalance same

theorem saveReservation {held image : WalletReservation} (same : held.undated = image.undated) :
    Mirrors (fun _ _ => True) (Store.saveReservation held) (Store.saveReservation image) := by
  rintro store twin alike ⟨value, store⟩ done
  obtain ⟨known, rfl⟩ := Store.saveReservation_ok.mp done
  have sameId : held.id = image.id := congrArg (·.id) same
  rw [sameId, alike.has_reservation] at known
  exact ⟨((), _), Store.saveReservation_ok.mpr ⟨known, rfl⟩, trivial, alike.withReservation same⟩

theorem updateOrder {order image : Order} (same : order.undated = image.undated) :
    Mirrors (fun _ _ => True) (Store.updateOrder order) (Store.updateOrder image) := by
  rintro store twin alike ⟨value, store⟩ done
  obtain ⟨known, rfl⟩ := Store.updateOrder_ok.mp done
  have sameId : order.id = image.id := congrArg (·.id) same
  have found := congrArg Option.isNone (alike.order? order.id)
  rw [Option.isNone_map, Option.isNone_map] at found
  refine ⟨((), _), Store.updateOrder_ok.mpr ⟨?_, rfl⟩, trivial, alike.withOrder same⟩
  rw [← sameId, ← found]
  exact known

end Mirrors

end Work

namespace Funds

def Progress.undated (progress : Progress) : Progress where
  reservation := progress.reservation.map (·.undated)
  drawn := progress.drawn
  balances := progress.balances.map (·.undated)

theorem settleDelta_mirrors {progress image : Progress} (same : progress.undated = image.undated)
    (account : String) (delta : String × Decimal) (now later : Instant) :
    Work.Mirrors (·.undated = ·.undated) (settleDelta account now progress delta)
      (settleDelta account later image delta) := by
  have sameHeld : progress.reservation.map (·.undated) = image.reservation.map (·.undated) :=
    congrArg (·.reservation) same
  have matching : (progress.reservation.filter (·.asset == delta.1)).map (·.undated) =
      (image.reservation.filter (·.asset == delta.1)).map (·.undated) := by
    have selects : ∀ reservation : Option WalletReservation,
        (reservation.filter (·.asset == delta.1)).map (·.undated) =
          (reservation.map (·.undated)).filter (·.asset == delta.1) := by
      intro reservation
      rw [Option.filter_map]
      rfl
    rw [selects, selects, sameHeld]
  refine (Work.Mirrors.claimBalance account delta.1 now later).bind fun balance _ sameBalance => ?_
  refine .bind (.failing (WalletBalance.applyDelta_mirrors sameBalance matching)) ?_
  intro settled settledImage sameSettled
  have sameWritten : settled.balance.undated = settledImage.balance.undated :=
    congrArg (·.balance) sameSettled
  refine (Work.Mirrors.saveBalance sameWritten).bind fun _ _ _ => .pure ?_
  have sameSplit : settled.split = settledImage.split := congrArg (·.split) sameSettled
  have sameLeft : settled.reservation.map (·.undated) = settledImage.reservation.map (·.undated) :=
    congrArg (·.reservation) sameSettled
  have sameDrawn : progress.drawn = image.drawn := congrArg (·.drawn) same
  have sameBalances : progress.balances.map (·.undated) = image.balances.map (·.undated) :=
    congrArg (·.balances) same
  have present := congrArg Option.isSome matching
  rw [Option.isSome_map, Option.isSome_map] at present
  simp only [Progress.undated, Progress.mk.injEq, present, sameDrawn, sameSplit, List.map_append,
    sameBalances, List.map_singleton, sameWritten, and_true]
  split
  · exact sameLeft
  · exact sameHeld

theorem settleFill_mirrors (account orderId : String) (deltas : AssetTotals)
    (now later : Instant) :
    Work.Mirrors (·.map (·.undated) = ·.map (·.undated))
      (settleFill account orderId deltas now) (settleFill account orderId deltas later) := by
  refine .get_bind fun store twin alike => ?_
  have start : (Progress.mk (store.activeReservation? orderId) false []).undated =
      (Progress.mk (twin.activeReservation? orderId) false []).undated := by
    simp only [Progress.undated, alike.activeReservation?]
  refine (Work.Mirrors.foldlM (fun _ _ delta same => settleDelta_mirrors same account delta now later)
    start deltas).bind fun progress image same => ?_
  have sameBalances : progress.balances.map (·.undated) = image.balances.map (·.undated) :=
    congrArg (·.balances) same
  have sameHeld : progress.reservation.map (·.undated) = image.reservation.map (·.undated) :=
    congrArg (·.reservation) same
  have sameDrawn : progress.drawn = image.drawn := congrArg (·.drawn) same
  cases left : progress.reservation <;> cases imageLeft : image.reservation <;>
    simp only [left, imageLeft, Option.map_none, Option.map_some, reduceCtorEq, Option.some.injEq]
      at sameHeld
  case none.none => exact .pure sameBalances
  case some.some held imageHeld =>
    simp only [sameDrawn]
    split
    · exact (Work.Mirrors.saveReservation sameHeld).bind fun _ _ _ => .pure sameBalances
    · exact .pure sameBalances

theorem releaseFor_mirrors (orderId : String) (status : ReservationStatus) (now later : Instant) :
    Work.Mirrors (·.map (·.undated) = ·.map (·.undated))
      (releaseFor orderId status now) (releaseFor orderId status later) := by
  refine .get_bind fun store twin alike => ?_
  have same := alike.activeReservation? orderId
  cases active : store.activeReservation? orderId <;>
    cases imaged : twin.activeReservation? orderId <;>
    simp only [active, imaged, Option.map_none, Option.map_some, reduceCtorEq, Option.some.injEq]
      at same
  case none.none => exact .pure rfl
  case some.some held image =>
    have closing := WalletReservation.close_mirrors status now later same
    obtain ⟨created, updated, rfl⟩ := WalletReservation.eq_of_undated same
    refine (Work.Mirrors.claimBalance held.account held.asset now later).bind
      fun balance _ sameBalance => ?_
    refine (Work.Mirrors.lift closing).bind ?_
    rintro ⟨left, closed⟩ ⟨_, imageClosed⟩ ⟨rfl, sameClosed⟩
    have written : ∀ balance image : WalletBalance, balance.undated = image.undated →
        Work.Mirrors (·.map (·.undated) = ·.map (·.undated))
          (do Store.saveReservation closed; return some balance)
          (do Store.saveReservation imageClosed; return some image) := fun _ _ same =>
      (Work.Mirrors.saveReservation sameClosed).bind fun _ _ _ => .pure (congrArg some same)
    simp only [pure_bind]
    split
    · refine .bind (.failing (WalletBalance.release_mirrors sameBalance)) fun _ _ sameReleased => ?_
      exact (Work.Mirrors.saveBalance sameReleased).bind fun _ _ _ => written _ _ sameReleased
    · exact written _ _ sameBalance

theorem map_undated_mergeBalance (balance : WalletBalance) (balances : List WalletBalance) :
    (mergeBalance balance balances).map (·.undated) =
      mergeBalance balance.undated (balances.map (·.undated)) := by
  induction balances with
  | nil => rfl
  | cons row rest ih =>
      simp only [mergeBalance, List.map_cons, WalletBalance.undated]
      split
      · rfl
      · exact congrArg _ ih

end Funds

/-- The reports are of one trade: they differ at most in the names of the order, in the status that
they carry, and in the moment that they give. -/
structure ExecutionReport.SameTrade (report other : ExecutionReport) : Prop where
  exchange : report.exchange = other.exchange
  instrument : report.instrument = other.instrument
  tradeId : report.tradeId = other.tradeId
  side : report.side = other.side
  quantity : report.quantity = other.quantity
  price : report.price = other.price
  feeAsset : report.feeAsset = other.feeAsset
  fee : report.fee = other.fee

theorem ExecutionReport.SameTrade.refl (report : ExecutionReport) : report.SameTrade report :=
  ⟨rfl, rfl, rfl, rfl, rfl, rfl, rfl, rfl⟩

theorem ExecutionReport.SameTrade.symm {report other : ExecutionReport}
    (same : report.SameTrade other) : other.SameTrade report :=
  ⟨same.exchange.symm, same.instrument.symm, same.tradeId.symm, same.side.symm, same.quantity.symm,
    same.price.symm, same.feeAsset.symm, same.fee.symm⟩

theorem ExecutionReport.SameTrade.eq {report other : ExecutionReport}
    (same : report.SameTrade other) : ∃ exchangeOrderId clientOrderId reportedStatus executedAt,
      other = { report with exchangeOrderId, clientOrderId, reportedStatus, executedAt } := by
  cases report
  cases other
  obtain ⟨rfl, rfl, rfl, rfl, rfl, rfl, rfl, rfl⟩ := same
  exact ⟨_, _, _, _, rfl⟩

theorem LedgerTransaction.ofExecution_mirrors (id : String) (execution : Execution)
    (exchangeOrderId : Option String) (executedAt : Instant) (economics : FillEconomics)
    (now later : Instant) :
    Mirrors (fun _ _ => True) (ofExecution id execution economics now)
      (ofExecution id { execution with exchangeOrderId, executedAt } economics later) := by
  refine .bind (.refl _) ?_
  rintro _ _ rfl
  exact .pure trivial

theorem ExecutionRecorded.validate_undated (execution : Execution)
    (exchangeOrderId : Option String) (executedAt : Instant) :
    EventPayload.validate (ofExecution execution) =
      EventPayload.validate (ofExecution { execution with exchangeOrderId, executedAt }) := by
  simp only [EventPayload.validate, validate, ofExecution]

namespace Terms

variable {terms : Terms} {order moved image : Order} {now later : Instant}
  {report other : ExecutionReport}

theorem releaseIfClosed_mirrors (same : moved.undated = image.undated) :
    Work.Mirrors (·.map (·.undated) = ·.map (·.undated)) (releaseIfClosed moved now)
      (releaseIfClosed image later) := by
  have sameId : moved.id = image.id := congrArg (·.id) same
  have sameStatus : moved.status = image.status := congrArg (·.status) same
  simp only [releaseIfClosed, sameId, sameStatus]
  split
  · exact Funds.releaseFor_mirrors _ _ _ _
  · exact .pure rfl

theorem announce_mirrors {P : Type} [EventPayload P] {payload copy : P}
    (valid : EventPayload.validate payload = EventPayload.validate copy) :
    Work.Mirrors (fun _ _ => True) (terms.announce payload now) (terms.announce copy later) := by
  refine Work.Mirrors.mint.bind ?_
  rintro id _ rfl
  have made : Mirrors (fun _ _ => True) (OutboxRow.ofPayload id terms.topicPrefix payload now)
      (OutboxRow.ofPayload id terms.topicPrefix copy later) := by
    unfold OutboxRow.ofPayload
    rw [valid]
    exact (Mirrors.refl _).bind fun _ _ _ => .pure trivial
  refine (Work.Mirrors.failing made).bind fun _ _ _ => .modify fun store twin alike => ?_
  exact ⟨alike.orders, alike.balances, alike.reservations, alike.minted⟩

theorem recordEvent_mirrors (moved image : Order) (eventType : OrderEventType)
    (before : Option OrderStatus) (status : OrderStatus) (details others : Json)
    (now later : Instant) :
    Work.Mirrors (fun _ _ => True) (recordEvent moved eventType before status details now)
      (recordEvent image eventType before status others later) := by
  refine Work.Mirrors.mint.bind fun _ _ _ => .modify fun store twin alike => ?_
  exact ⟨alike.orders, alike.balances, alike.reservations, alike.minted⟩

theorem announceOrder_mirrors (same : moved.undated = image.undated) (before : OrderStatus)
    (reason : Option String) :
    Work.Mirrors (fun _ _ => True) (terms.announceOrder moved before reason now)
      (terms.announceOrder image before reason later) := by
  obtain ⟨created, updated, rfl⟩ := Order.eq_of_undated same
  have progress : EventPayload.validate (OrderProgress.ofOrder moved) = EventPayload.validate
      (OrderProgress.ofOrder { moved with createdAt := created, updatedAt := updated }) := by
    simp only [EventPayload.validate, OrderProgress.validate, OrderProgress.ofOrder]
  refine (announce_mirrors progress).bind fun _ _ _ => ?_
  have made : Mirrors (EventPayload.validate · = EventPayload.validate ·)
      (OrderChange.ofOrder moved before reason)
      (OrderChange.ofOrder { moved with createdAt := created, updatedAt := updated } before
        reason) :=
    by
    refine (Mirrors.refl moved.remaining).bind ?_
    rintro remaining _ rfl
    refine .pure ?_
    simp only [EventPayload.validate, OrderChange.validate]
  exact (Work.Mirrors.lift made).bind fun _ _ valid => announce_mirrors valid

theorem announceBalances_mirrors {balances images : List WalletBalance}
    (same : balances.map (·.undated) = images.map (·.undated)) (reason orderId : String) :
    Work.Mirrors (fun _ _ => True) (terms.announceBalances balances reason orderId now)
      (terms.announceBalances images reason orderId later) := by
  unfold announceBalances
  simp only [List.forM_eq_forM]
  induction balances generalizing images with
  | nil =>
      obtain rfl : images = [] := List.map_eq_nil_iff.mp same.symm
      exact .pure trivial
  | cons balance rest ih =>
      cases images with
      | nil => contradiction
      | cons imageBalance others =>
          rw [List.map_cons, List.map_cons, List.cons.injEq] at same
          obtain ⟨moment, rfl⟩ := WalletBalance.eq_of_undated same.1
          rw [List.forM_cons, List.forM_cons]
          have valid : EventPayload.validate (BalanceUpdated.ofBalance balance reason (some orderId)) =
              EventPayload.validate (BalanceUpdated.ofBalance
                { balance with updatedAt := moment } reason (some orderId)) := by
            simp only [EventPayload.validate, BalanceUpdated.validate, BalanceUpdated.ofBalance]
          exact (announce_mirrors valid).bind fun _ _ _ => ih same.2

theorem applyFill_mirrors (same : report.SameTrade other)
    (advances : Mirrors (fun done image => done.1 = image.1 ∧ done.2.undated = image.2.undated)
      (order.applyFill report.quantity report.reportedStatus now)
      (order.applyFill other.quantity other.reportedStatus later)) :
    Work.Mirrors Eq (terms.applyFill order report now) (terms.applyFill order other later) := by
  obtain ⟨number, clientId, status, moment, rfl⟩ := same.eq
  refine Work.Mirrors.mint.bind ?_
  rintro executionId _ rfl
  refine .bind (.modify fun store twin alike => ?_) fun _ _ _ => ?_
  · exact ⟨alike.orders, alike.balances, alike.reservations, alike.minted⟩
  dsimp only
  split
  · exact .failing nofun
  · next pair listed =>
      refine .bind (.lift (.refl _)) ?_
      rintro economics _ rfl
      refine .bind (.lift (.refl _)) ?_
      rintro deltas _ rfl
      refine (Funds.settleFill_mirrors order.account order.id deltas now later).bind
        fun balances images sameBalances => ?_
      refine Work.Mirrors.mint.bind ?_
      rintro transactionId _ rfl
      refine .bind (.failing (LedgerTransaction.ofExecution_mirrors _ _ _ _ _ _ _)) fun _ _ _ => ?_
      refine .bind (.modify fun store twin alike => ?_) fun _ _ _ => ?_
      · exact ⟨alike.orders, alike.balances, alike.reservations, alike.minted⟩
      refine (Work.Mirrors.failing advances).bind ?_
      rintro ⟨fill, moved⟩ ⟨_, image⟩ ⟨rfl, sameMoved⟩
      refine (Work.Mirrors.updateOrder sameMoved).bind fun _ _ _ => ?_
      refine (releaseIfClosed_mirrors sameMoved).bind fun released imageReleased sameReleased => ?_
      refine (recordEvent_mirrors _ _ _ _ _ _ _ _ _).bind fun _ _ _ => ?_
      refine .bind (announce_mirrors (ExecutionRecorded.validate_undated ..)) fun _ _ _ => ?_
      refine .bind (announceOrder_mirrors sameMoved _ _) fun _ _ _ => ?_
      have sameId : moved.id = image.id := congrArg (·.id) sameMoved
      have sameStatus : moved.status = image.status := congrArg (·.status) sameMoved
      rw [sameId, sameStatus]
      refine .bind (announceBalances_mirrors ?_ _ _) fun _ _ _ => .pure rfl
      cases released <;> cases imageReleased <;>
        simp only [Option.map_none, Option.map_some, reduceCtorEq, Option.some.injEq] at sameReleased
      case none.none => exact sameBalances
      case some.some =>
        simp only [Funds.map_undated_mergeBalance, sameReleased, sameBalances]

end Terms

end SpotSettlement
