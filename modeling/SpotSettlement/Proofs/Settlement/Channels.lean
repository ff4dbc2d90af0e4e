import SpotSettlement.Proofs.Settlement.Commuting
import SpotSettlement.Proofs.Settlement.Moments

namespace SpotSettlement

/-! # One trade over two channels

A stream and a poll may report the same trade, and the stream's report may carry a status of the
order that the poll's does not.  Whichever comes first is applied and the other is a duplicate, so
both ways lead to the same end, unless the stream's report cancels what is left of the order.
-/

open Decimal

namespace OrderStatus

variable {current after : OrderStatus} {reported : Option OrderStatus}
  {prior filled quantity : Decimal}

/-- An order in this status can be filled. -/
def IsLive (status : OrderStatus) : Prop := status = .acknowledged ∨ status = .partiallyFilled

theorem IsLive.ne_new (live : current.IsLive) : current ≠ .new := by
  rintro rfl
  obtain impossible | impossible := live <;> cases impossible

/-- A status that comes along with a fill decides nothing that the quantities do not, unless it
cancels an order that is not complete. -/
theorem next_reported (live : current.IsLive)
    (completes : reported = some .canceled → ofQuantities filled quantity = some .filled) :
    current.next reported prior filled quantity = .ok after ↔
      current.next none prior filled quantity = .ok after := by
  unfold next
  split
  · rfl
  split
  · rfl
  dsimp only
  split
  · rfl
  · next unfinished =>
      have notCanceled : reported ≠ some .canceled := fun canceled =>
        unfinished (completes canceled)
      rw [Option.filter_none]
      cases chosen : reported.filter _ with
      | some status =>
          obtain ⟨carried, holds⟩ := Option.filter_eq_some_iff.mp chosen
          rw [Bool.and_eq_true] at holds
          have implied : ofQuantities filled quantity = some status := by
            obtain ⟨agrees, legal⟩ := holds
            rw [carried] at notCanceled
            rcases live with rfl | rfl <;> cases status <;>
              simp_all [canBecome, successors, agreesWith]
          simp only [implied, Option.filter_some, holds.2, if_true]
      | none =>
          cases (ofQuantities filled quantity).filter _ with
          | some status => rfl
          | none => simp only [reduceCtorEq]

theorem next_canceled (live : current.IsLive)
    (incomplete : ofQuantities filled quantity ≠ some .filled)
    (given : current.next (some .canceled) prior filled quantity = .ok after) :
    after = .canceled := by
  have legal : current.canBecome .canceled = true := by rcases live with rfl | rfl <;> rfl
  unfold next at given
  split at given
  · contradiction
  split at given
  · contradiction
  simp only [if_neg incomplete, agreesWith, legal, Option.filter_some, Bool.and_self, if_true,
    Except.ok.injEq] at given
  exact given.symm

end OrderStatus

namespace Order

variable {order : Order} {quantity : Decimal} {reported : Option OrderStatus}

/-- A fill of this quantity does not complete the order. -/
def StaysIncomplete (order : Order) (quantity : Decimal) : Prop :=
  ∃ sum, order.filled.add quantity = .ok sum ∧ sum.value < order.quantity.value

instance (order : Order) (quantity : Decimal) : Decidable (order.StaysIncomplete quantity) :=
  inferInstanceAs (Decidable (∃ _, _ ∧ _))

theorem staysIncomplete_iff {sum : Decimal} (added : order.filled.add quantity = .ok sum) :
    order.StaysIncomplete quantity ↔
      OrderStatus.ofQuantities (sum.min order.quantity) order.quantity ≠ some .filled := by
  rw [ne_eq, OrderStatus.ofQuantities_eq_filled, value_min, min_eq_right_iff, not_le]
  constructor
  · rintro ⟨again, same, incomplete⟩
    obtain rfl := Except.ok.inj (added.symm.trans same)
    exact incomplete
  · exact fun incomplete => ⟨sum, added, incomplete⟩

theorem applyFill_moments (order : Order) (quantity : Decimal) (reported : Option OrderStatus)
    (now later : Instant) :
    Mirrors (fun done image => done.1 = image.1 ∧ done.2.undated = image.2.undated)
      (order.applyFill quantity reported now) (order.applyFill quantity reported later) := by
  refine .bind (.lift (.refl _)) fun _ _ _ => .bind (.lift (.refl _)) ?_
  rintro sum _ rfl
  refine .bind (.lift (.refl _)) ?_
  rintro status _ rfl
  exact .pure ⟨rfl, rfl⟩

/-- A fill moves the order alike with and without a status, at any two moments. -/
theorem applyFill_mirrors (live : order.status.IsLive)
    (completes : reported = some .canceled → ¬order.StaysIncomplete quantity)
    (now later : Instant) :
    Mirrors (fun done image => done.1 = image.1 ∧ done.2.undated = image.2.undated)
      (order.applyFill quantity reported now) (order.applyFill quantity none later) := by
  unfold applyFill
  refine .bind (.lift (.refl _)) fun _ _ _ => ?_
  have sums : Mirrors (fun sum image => sum = image ∧ order.filled.add quantity = .ok sum)
      (order.filled.add quantity) (order.filled.add quantity) :=
    fun sum added => ⟨sum, added, rfl, added⟩
  refine .bind (.lift sums) ?_
  rintro sum _ ⟨rfl, added⟩
  rw [Order.staysIncomplete_iff added, not_not] at completes
  have follows : Mirrors Eq
      (order.status.next reported order.filled (sum.min order.quantity) order.quantity)
      (order.status.next none order.filled (sum.min order.quantity) order.quantity) :=
    fun status given => ⟨status, (OrderStatus.next_reported live completes).mp given, rfl⟩
  refine .bind (.lift follows) ?_
  rintro status _ rfl
  exact .pure ⟨rfl, rfl⟩

end Order

theorem ExecutionReport.SameTrade.validate {report other : ExecutionReport}
    (same : report.SameTrade other)
    (named : ¬(other.exchangeOrderId.isNone = true ∧ other.clientOrderId.isNone = true))
    (valid : report.validate = .ok ()) : other.validate = .ok () := by
  obtain ⟨number, clientId, status, moment, rfl⟩ := same.eq
  simp only [ExecutionReport.validate, bind_ok_iff, ite_eq_iff, throw_ok_iff, pure_ok_iff] at valid ⊢
  grind

namespace Store

variable {store twin : Store} {terms : Terms} {report other : ExecutionReport} {now later : Instant}
  {order : Order}

theorem Alike.concurs (alike : store.Alike twin) : store.Concurs twin where
  standing id := by
    have same := congrArg (Option.map fun order : Order => (order.status, order.filled.value))
      (alike.order? id)
    rw [Option.map_map, Option.map_map] at same
    exact same
  parts account asset := by
    have same := congrArg (Option.map fun balance : WalletBalance =>
      (balance.available.value, balance.reserved.value)) (alike.balance? account asset)
    rw [Option.map_map, Option.map_map] at same
    exact same
  holds := by
    have same := congrArg (List.map WalletReservation.hold) alike.reservations
    rw [List.map_map, List.map_map] at same
    exact same

/-- A report that is not applied changes nothing. -/
theorem apply_of_not_inserts (ignored : store.inserts terms report now = false) :
    (Call.fill report).apply terms now store = store := by
  unfold inserts at ignored
  cases outcome : (store.perform (terms.processFill report now)).1 with
  | error failure => exact perform_error outcome
  | ok value =>
      obtain ⟨-, -, ⟨-, -, same⟩ | ⟨order, -, ⟨-, -, same⟩ | ⟨-, fills⟩⟩⟩ :=
        Terms.processFill_cases (perform_ok outcome)
      · exact same
      · exact same
      · obtain ⟨fill, moved, -, -, rfl⟩ := fills_orders fills
        rw [outcome] at ignored
        contradiction

/-- A trade that is recorded is not applied again. -/
theorem not_inserts_of_recorded
    (recorded : store.hasExecution (report.exchange, report.instrument, report.tradeId) = true) :
    store.inserts terms report now = false := by
  rw [← Bool.not_eq_true]
  intro inserted
  obtain ⟨order, outcome, -, -, -, fresh, -⟩ := inserts_cases inserted
  rw [recorded] at fresh
  contradiction

theorem inserts_records (same : report.SameTrade other)
    (inserted : store.inserts terms report now = true) :
    ((Call.fill report).apply terms now store).hasExecution
      (other.exchange, other.instrument, other.tradeId) = true := by
  obtain ⟨order, outcome, -, -, -, -, -, fills⟩ := inserts_cases inserted
  rw [hasExecution_iff, (fills_tables fills).2.1, List.map_append, ← same.exchange,
    ← same.instrument, ← same.tradeId]
  exact List.mem_append_right _ (List.mem_singleton_self _)

theorem processFill_fresh (valid : report.validate = .ok ()) (available : store.unitOutage = none)
    (resolved : store.resolveOrder? report.exchange report.exchangeOrderId report.clientOrderId =
      some order)
    (fresh : store.hasExecution (report.exchange, report.instrument, report.tradeId) = false) :
    (terms.processFill report now).run store = (terms.applyFill order report now).run store := by
  rw [Terms.processFill_run terms now valid available, resolved, Option.elim_some, fresh,
    if_neg Bool.false_ne_true]

/-- What becomes of a trade does not depend on which report of it is applied, nor when. -/
theorem inserts_mirrors (same : report.SameTrade other)
    (resolved : store.resolveOrder? report.exchange report.exchangeOrderId report.clientOrderId =
      some order)
    (otherResolved : store.resolveOrder? other.exchange other.exchangeOrderId other.clientOrderId =
      some order)
    (advances : Mirrors (fun done image => done.1 = image.1 ∧ done.2.undated = image.2.undated)
      (order.applyFill report.quantity report.reportedStatus now)
      (order.applyFill other.quantity other.reportedStatus later))
    (inserted : store.inserts terms report now = true) :
    store.inserts terms other later = true ∧
      ((Call.fill report).apply terms now store).Alike
        ((Call.fill other).apply terms later store) := by
  obtain ⟨found, outcome, valid, available, again, fresh, done, fills⟩ := inserts_cases inserted
  obtain rfl := Option.some.inj (resolved.symm.trans again)
  have named : ¬(other.exchangeOrderId.isNone = true ∧ other.clientOrderId.isNone = true) := by
    rintro ⟨noNumber, noClientId⟩
    rw [Option.isNone_iff_eq_none.mp noNumber, Option.isNone_iff_eq_none.mp noClientId]
      at otherResolved
    contradiction
  have otherFresh := fresh
  rw [same.exchange, same.instrument, same.tradeId] at otherFresh
  obtain ⟨⟨image, after⟩, imaged, rfl, alike⟩ := Terms.applyFill_mirrors same advances store store
    (.refl store) _ ((processFill_fresh valid available resolved fresh).symm.trans done)
  have applied : store.perform (terms.processFill other later) = (.ok outcome, after) :=
    perform_ok_iff.mpr ((processFill_fresh (same.validate named valid) available otherResolved
      otherFresh).trans imaged)
  obtain ⟨fill, moved, -, -, rfl⟩ := fills_orders fills
  constructor
  · rw [inserts, applied]
  · have ended : (Call.fill other).apply terms later store = after := congrArg Prod.snd applied
    rw [ended]
    exact alike

/-- A report does the same at every moment. -/
theorem inserts_moments (store : Store) (terms : Terms) (report : ExecutionReport)
    (now later : Instant) :
    store.inserts terms report now = store.inserts terms report later ∧
      ((Call.fill report).apply terms now store).Alike
        ((Call.fill report).apply terms later store) := by
  have moved : ∀ now later, store.inserts terms report now = true →
      store.inserts terms report later = true ∧ ((Call.fill report).apply terms now store).Alike
        ((Call.fill report).apply terms later store) := by
    intro now later inserted
    obtain ⟨order, outcome, -, -, resolved, -⟩ := inserts_cases inserted
    exact inserts_mirrors (.refl report) resolved resolved
      (order.applyFill_moments report.quantity report.reportedStatus now later) inserted
  cases inserted : store.inserts terms report now with
  | true =>
      have both := moved now later inserted
      exact ⟨both.1.symm, both.2⟩
  | false =>
      have never : store.inserts terms report later = false := by
        rw [← Bool.not_eq_true]
        intro inserts
        rw [(moved later now inserts).1] at inserted
        contradiction
      rw [never, apply_of_not_inserts inserted, apply_of_not_inserts never]
      exact ⟨rfl, .refl store⟩

/-- A report of a trade that has just been applied changes nothing. -/
theorem apply_after_inserts (same : report.SameTrade other)
    (inserted : store.inserts terms report now = true) :
    (Call.fill other).apply terms later ((Call.fill report).apply terms now store) =
      (Call.fill report).apply terms now store :=
  apply_of_not_inserts (not_inserts_of_recorded (inserts_records same inserted))

/-- Once a trade has been applied, another report of it is a duplicate. -/
theorem perform_after_inserts (same : report.SameTrade other) (settled : order.status ≠ .new)
    (resolved : store.resolveOrder? report.exchange report.exchangeOrderId report.clientOrderId =
      some order)
    (otherResolved : store.resolveOrder? other.exchange other.exchangeOrderId other.clientOrderId =
      some order)
    (valid : other.validate = .ok ()) (inserted : store.inserts terms report now = true) :
    (((Call.fill report).apply terms now store).perform (terms.processFill other later)).1 =
      .ok .duplicate := by
  have recorded : ((Call.fill report).apply terms now store).hasExecution
      (other.exchange, other.instrument, other.tradeId) = true := inserts_records same inserted
  obtain ⟨found, outcome, -, available, again, fresh, -, fills⟩ := inserts_cases inserted
  obtain rfl := Option.some.inj (resolved.symm.trans again)
  generalize (Call.fill report).apply terms now store = after at recorded fills ⊢
  have stillAvailable := (Step.filled resolved fresh fills).unitOutage.trans available
  obtain ⟨fill, moved, advance, orders, -⟩ := fills_orders fills
  have advances := Order.applyFill_advances advance
  have member : moved ∈ after.orders :=
    orders ▸ mem_replaceOrder_self (Terms.resolveOrder?_mem resolved) advances.id.symm
  -- The order found now may be another one: what counts is that there is one.
  obtain ⟨one, foundAgain⟩ := resolveOrder?_isSome member
    (advances.goesBy settled (resolveOrder?_goesBy otherResolved))
  have dropped : after.perform (terms.processFill other later) = (.ok .duplicate, after) := by
    rw [perform_ok_iff, Terms.processFill_run terms later valid stillAvailable, foundAgain,
      Option.elim_some, if_pos recorded]
    rfl
  rw [dropped]

/-- A fill leaves its order as the report has moved it. -/
theorem fills_standing {outcome : IngestOutcome} {after : Store} (member : order ∈ store.orders)
    (fills : terms.Fills order report now store outcome after) :
    ∃ fill moved, order.applyFill report.quantity report.reportedStatus now = .ok (fill, moved) ∧
      after.standing order.id = some (moved.status, moved.filled.value) := by
  obtain ⟨fill, moved, advance, orders, -⟩ := fills_orders fills
  have sameId := (Order.applyFill_advances advance).id
  refine ⟨fill, moved, advance, ?_⟩
  rw [standing, order?_replaceOrder orders]
  cases lookup : store.order? order.id with
  | none => exact absurd rfl (order?_none lookup member)
  | some found =>
      have named : found.id = moved.id := (order?_some lookup).2.trans sameId.symm
      rw [Option.map_some, Option.map_some, replacing, if_pos named]

def reservation? (store : Store) (id : String) : Option WalletReservation :=
  store.reservations.find? (·.id == id)

variable {held : WalletReservation}

theorem releaseFor_closes {orderId : String} {status : ReservationStatus}
    {released : Option WalletBalance} {after : Store}
    (active : store.activeReservation? orderId = some held)
    (done : (Funds.releaseFor orderId status now).run store = .ok (released, after)) :
    after.reservation? held.id = some { held with amount := .zero, status, updatedAt := now } := by
  obtain ⟨none, -⟩ | ⟨found, balance, again, -, -, rfl⟩ := Funds.releaseFor_cases done
  · cases active.symm.trans none
  · obtain rfl := Option.some.inj (active.symm.trans again)
    have listed : (store.reservations.find? (·.id == held.id)).isSome = true :=
      List.find?_isSome.mpr ⟨held, (activeReservation?_some active).1, beq_self_eq_true _⟩
    obtain ⟨row, found⟩ := Option.isSome_iff_exists.mp listed
    have sameId : row.id = held.id := by simpa using List.find?_some found
    exact find?_putReservation found sameId.symm (beq_self_eq_true _)

/-- A fill leaves the reservation of its order open, unless the order is closed by it. -/
theorem fills_reservation {outcome : IngestOutcome} {after : Store} {fill : FillTransition}
    {moved : Order} (fills : terms.Fills order report now store outcome after)
    (advance : order.applyFill report.quantity report.reportedStatus now = .ok (fill, moved))
    (active : store.activeReservation? order.id = some held) :
    ∃ rest, held.Drawn rest ∧
      (Funds.closingStatus moved.status = none → after.activeReservation? order.id = some rest) ∧
      ∀ status, Funds.closingStatus moved.status = some status → after.reservation? held.id =
        some { rest with amount := .zero, status, updatedAt := now } := by
  cases fills with
  | @applied _ _ _ _ settled transaction _ again _ closed _ _ _ _ _ _ _ settle _ advanced close =>
      obtain ⟨-, rfl⟩ := Prod.mk.inj (Except.ok.inj (advance.symm.trans advanced))
      have sameId := (Order.applyFill_advances advance).id
      have related := Funds.settleFill_drawn settle
      change Option.Rel WalletReservation.Drawn (store.activeReservation? order.id) _ at related
      rw [active] at related
      cases drawn : settled.activeReservation? order.id with
      | none => rw [drawn] at related; contradiction
      | some rest =>
          rw [drawn] at related
          obtain ⟨kept⟩ := related
          refine ⟨rest, kept, ?_⟩
          obtain ⟨staysOpen, -, rfl⟩ | ⟨status, closing, release⟩ :=
            Terms.releaseIfClosed_cases close
          · exact ⟨fun _ => drawn, fun _ closing => (nomatch staysOpen.symm.trans closing)⟩
          · refine ⟨fun staysOpen => (nomatch staysOpen.symm.trans closing), ?_⟩
            intro again closingAgain
            obtain rfl := Option.some.inj (closing.symm.trans closingAgain)
            have stillOpen : ((settled.withTransaction transaction).withOrder
                moved).activeReservation? moved.id = some rest := sameId ▸ drawn
            have closes := releaseFor_closes stillOpen release
            rw [← kept.id]
            exact closes

/-- The report of the stream cancels what is left of the order, and either report would be applied
if it came first. -/
structure CutsShort (store : Store) (terms : Terms) (order : Order) (stream poll : ExecutionReport)
    (first third : Instant) : Prop where
  canceling : stream.reportedStatus = some .canceled
  incomplete : order.StaysIncomplete stream.quantity
  streamInserts : store.inserts terms stream first = true
  pollInserts : store.inserts terms poll third = true

/-- In one store the order has ended with what is filled of it, and the reservation that was open
before is released; in the other as much is filled, but the order and its reservation are open. -/
structure EndsApart (store ended going : Store) (orderId : String) : Prop where
  standing : ∃ filled, ended.standing orderId = some (.canceled, filled) ∧
    going.standing orderId = some (.partiallyFilled, filled)
  released : ∀ held ∈ store.activeReservation? orderId, ∃ closed,
    ended.reservation? held.id = some closed ∧ closed.orderId = orderId ∧
      closed.status = .released ∧ closed.amount = .zero
  kept : ∀ held ∈ store.activeReservation? orderId, ∃ rest,
    going.activeReservation? orderId = some rest ∧ rest.id = held.id

/-- A report that cancels the rest of the order ends it, and one of the same trade without a status
does not. -/
theorem fills_endsApart (same : report.SameTrade other) (live : order.status.IsLive)
    (member : order ∈ store.orders) (canceling : report.reportedStatus = some .canceled)
    (incomplete : order.StaysIncomplete report.quantity) (unnamed : other.reportedStatus = none)
    {outcome otherOutcome : IngestOutcome} {after otherAfter : Store}
    (fills : terms.Fills order report now store outcome after)
    (otherFills : terms.Fills order other later store otherOutcome otherAfter) :
    store.EndsApart after otherAfter order.id := by
  obtain ⟨fill, moved, advance, stands⟩ := fills_standing member fills
  obtain ⟨otherFill, otherMoved, otherAdvance, otherStands⟩ := fills_standing member otherFills
  obtain ⟨-, sum, next, added, follows, -, ended⟩ := Order.applyFill_ok advance
  obtain ⟨-, otherSum, otherNext, otherAdded, otherFollows, -, going⟩ :=
    Order.applyFill_ok otherAdvance
  rw [← same.quantity, added] at otherAdded
  obtain rfl := Except.ok.inj otherAdded
  rw [Order.staysIncomplete_iff added] at incomplete
  rw [canceling] at follows
  rw [unnamed] at otherFollows
  have sameFilled : moved.filled = otherMoved.filled := by rw [ended, going]
  have canceled : moved.status = .canceled := by
    rw [ended]
    exact OrderStatus.next_canceled live incomplete follows
  have partly : otherMoved.status = .partiallyFilled := by
    obtain ⟨-, -, -, -, implied | ⟨-, reported, -⟩⟩ := OrderStatus.next_ok otherFollows
    · rw [going]
      exact (OrderStatus.ofQuantities_some implied).resolve_left
        fun complete => incomplete (complete ▸ implied)
    · contradiction
  refine ⟨⟨moved.filled.value, canceled ▸ stands, ?_⟩, ?_, ?_⟩
  · rw [sameFilled, ← partly]
    exact otherStands
  · intro held active
    obtain ⟨rest, drawn, -, closes⟩ := fills_reservation fills advance active
    refine ⟨_, closes .released (by rw [canceled]; rfl), ?_, rfl, rfl⟩
    exact drawn.orderId.trans (activeReservation?_some active).2.1
  · intro held active
    obtain ⟨rest, drawn, stays, -⟩ := fills_reservation otherFills otherAdvance active
    exact ⟨rest, stays (by rw [partly]; rfl), drawn.id⟩

theorem EndsApart.not_concurs {ended going : Store} {orderId : String}
    (apart : store.EndsApart ended going orderId) : ¬ended.Concurs going := by
  obtain ⟨filled, stands, otherStands⟩ := apart.standing
  intro concurs
  have agree := concurs.standing orderId
  rw [stands, otherStands] at agree
  cases agree

theorem Concurs.refl (store : Store) : store.Concurs store := (Alike.refl store).concurs

section

variable {stream poll : ExecutionReport} {first second third fourth : Instant}

/-- Reports of one trade of which not both would be applied first do the same in either order. -/
theorem concurs_of_not_inserts (same : stream.SameTrade poll)
    (either : store.inserts terms stream first = false ∨ store.inserts terms poll third = false) :
    ((Call.fill poll).apply terms second ((Call.fill stream).apply terms first store)).Concurs
      ((Call.fill stream).apply terms fourth ((Call.fill poll).apply terms third store)) := by
  have streamMoments := store.inserts_moments terms stream first fourth
  have pollMoments := store.inserts_moments terms poll second third
  cases streamed : store.inserts terms stream first with
  | true =>
      have ignored : store.inserts terms poll third = false :=
        either.resolve_left (by rw [streamed]; exact Bool.noConfusion)
      rw [apply_after_inserts same streamed, apply_of_not_inserts ignored]
      exact streamMoments.2.concurs
  | false =>
      rw [apply_of_not_inserts streamed]
      rw [streamMoments.1] at streamed
      cases polled : store.inserts terms poll third with
      | true =>
          rw [apply_after_inserts same.symm polled]
          exact pollMoments.2.concurs
      | false =>
          rw [apply_of_not_inserts polled, apply_of_not_inserts streamed]
          rw [← pollMoments.1] at polled
          rw [apply_of_not_inserts polled]
          exact .refl store

variable (same : stream.SameTrade poll) (unnamed : poll.reportedStatus = none)
  (streamed : store.resolveOrder? stream.exchange stream.exchangeOrderId
    stream.clientOrderId = some order)
  (polled : store.resolveOrder? poll.exchange poll.exchangeOrderId poll.clientOrderId =
    some order)
  (live : order.status.IsLive)

include same unnamed streamed polled live

theorem concurs_of_not_cutsShort (uncut : ¬store.CutsShort terms order stream poll first third) :
    ((Call.fill poll).apply terms second ((Call.fill stream).apply terms first store)).Concurs
      ((Call.fill stream).apply terms fourth ((Call.fill poll).apply terms third store)) := by
  cases streamApplied : store.inserts terms stream first with
  | false => exact concurs_of_not_inserts same (.inl streamApplied)
  | true =>
      cases pollApplied : store.inserts terms poll third with
      | false => exact concurs_of_not_inserts same (.inr pollApplied)
      | true =>
          rw [apply_after_inserts same streamApplied, apply_after_inserts same.symm pollApplied]
          have advances := Order.applyFill_mirrors live
            (fun canceled incomplete => uncut ⟨canceled, incomplete, streamApplied, pollApplied⟩)
            first third
          rw [← unnamed] at advances
          nth_rewrite 2 [same.quantity] at advances
          exact (inserts_mirrors same streamed polled advances streamApplied).2.concurs

theorem CutsShort.endsApart (cut : store.CutsShort terms order stream poll first third) :
    store.EndsApart
      ((Call.fill poll).apply terms second ((Call.fill stream).apply terms first store))
      ((Call.fill stream).apply terms fourth ((Call.fill poll).apply terms third store))
      order.id := by
  rw [apply_after_inserts same cut.streamInserts, apply_after_inserts same.symm cut.pollInserts]
  obtain ⟨found, outcome, -, -, again, -, -, fills⟩ := inserts_cases cut.streamInserts
  obtain ⟨pollFound, pollOutcome, -, -, pollAgain, -, -, pollFills⟩ :=
    inserts_cases cut.pollInserts
  obtain rfl := Option.some.inj (streamed.symm.trans again)
  obtain rfl := Option.some.inj (polled.symm.trans pollAgain)
  exact fills_endsApart same live (Terms.resolveOrder?_mem streamed) cut.canceling cut.incomplete
    unnamed fills pollFills

end

/-- It makes no difference whether a stream or a poll is the first to deliver a trade, unless the
report of the stream cancels what is left of the order and either report would be applied.  Then
the second report is dropped as a duplicate: the stream first, and the order ends canceled and its
reservation released; the poll first, and both stay open. -/
theorem channels_concur_iff (store : Store) (terms : Terms) {stream poll : ExecutionReport}
    {order : Order} (same : stream.SameTrade poll) (unnamed : poll.reportedStatus = none)
    (streamed : store.resolveOrder? stream.exchange stream.exchangeOrderId
      stream.clientOrderId = some order)
    (polled : store.resolveOrder? poll.exchange poll.exchangeOrderId poll.clientOrderId =
      some order)
    (live : order.status.IsLive) (first second third fourth : Instant) :
    (((Call.fill poll).apply terms second ((Call.fill stream).apply terms first store)).Concurs
        ((Call.fill stream).apply terms fourth ((Call.fill poll).apply terms third store)) ↔
      ¬store.CutsShort terms order stream poll first third) ∧
    (store.CutsShort terms order stream poll first third →
      (((Call.fill stream).apply terms first store).perform (terms.processFill poll second)).1 =
        .ok .duplicate ∧
      (((Call.fill poll).apply terms third store).perform (terms.processFill stream fourth)).1 =
        .ok .duplicate ∧
      store.EndsApart
        ((Call.fill poll).apply terms second ((Call.fill stream).apply terms first store))
        ((Call.fill stream).apply terms fourth ((Call.fill poll).apply terms third store))
        order.id) := by
  refine ⟨⟨fun concurs cut => ?_, concurs_of_not_cutsShort same unnamed streamed polled live⟩,
    fun cut => ?_⟩
  · exact (cut.endsApart same unnamed streamed polled live).not_concurs concurs
  · have settled := live.ne_new
    obtain ⟨-, -, streamValid, -⟩ := inserts_cases cut.streamInserts
    obtain ⟨-, -, pollValid, -⟩ := inserts_cases cut.pollInserts
    exact ⟨perform_after_inserts same settled streamed polled pollValid cut.streamInserts,
      perform_after_inserts same.symm settled polled streamed streamValid cut.pollInserts,
      cut.endsApart same unnamed streamed polled live⟩

end Store

namespace Sample

/-- The sample order while it waits for its first fill. -/
def openOrder : Order where
  id := "o-1"
  account := "a-1"
  instrument := "BTCUSDT"
  side := .buy
  orderType := .limit
  quantity := units 2
  limitPrice := some (units 100)
  status := .acknowledged
  filled := .zero
  clientOrderId := some "c-1"
  exchange := "binance"
  exchangeOrderId := some "x-1"
  exchangeClientOrderId := none
  createdAt := start
  updatedAt := start

def polledTrade : ExecutionReport := { trade none with exchangeOrderId := some "x-1" }

/-- The sample order after its trade is reported by both channels, the stream first. -/
def streamFirst (status : OrderStatus) : Store :=
  (Call.fill polledTrade).apply terms start
    ((Call.fill (trade (some status))).apply terms start (Store.reached acknowledged))

/-- The sample order after its trade is reported by both channels, the poll first. -/
def pollFirst (status : OrderStatus) : Store :=
  (Call.fill (trade (some status))).apply terms start
    ((Call.fill polledTrade).apply terms start (Store.reached acknowledged))

end Sample

namespace Store

theorem sample_channels_concur :
    (Sample.streamFirst .partiallyFilled).Concurs (Sample.pollFirst .partiallyFilled) ∧
    (reached Sample.acknowledged).EndsApart (Sample.streamFirst .canceled)
      (Sample.pollFirst .canceled) "o-1" := by
  have same (status : OrderStatus) : (Sample.trade (some status)).SameTrade Sample.polledTrade :=
    ⟨rfl, rfl, rfl, rfl, rfl, rfl, rfl, rfl⟩
  have streamed : (reached Sample.acknowledged).resolveOrder? "binance" none (some "c-1") =
      some Sample.openOrder := by decide +kernel
  have polled : (reached Sample.acknowledged).resolveOrder? "binance" (some "x-1") (some "c-1") =
      some Sample.openOrder := by decide +kernel
  have live : Sample.openOrder.status.IsLive := .inl rfl
  have concur (status : OrderStatus) := channels_concur_iff (reached Sample.acknowledged)
    Sample.terms (same status) rfl streamed polled live Sample.start Sample.start Sample.start
    Sample.start
  have notCanceled : (Sample.trade (some .partiallyFilled)).reportedStatus ≠ some .canceled := nofun
  have cut : (reached Sample.acknowledged).CutsShort Sample.terms Sample.openOrder
      (Sample.trade (some .canceled)) Sample.polledTrade Sample.start Sample.start :=
    ⟨rfl, by decide +kernel, by decide +kernel, by decide +kernel⟩
  unfold Sample.streamFirst Sample.pollFirst
  exact ⟨(concur .partiallyFilled).1.mpr fun cut => notCanceled cut.canceling,
    ((concur .canceled).2 cut).2.2⟩

/-- The stream's report cancels the rest of the sample order if it comes first, and is dropped with
its status if it comes second. -/
theorem sample_channels_differ :
    (Sample.trade (some .canceled)).SameTrade Sample.polledTrade ∧
    Sample.polledTrade.reportedStatus = none ∧
    (reached Sample.acknowledged).resolveOrder? "binance" none (some "c-1") =
      some Sample.openOrder ∧
    (reached Sample.acknowledged).resolveOrder? "binance" (some "x-1") (some "c-1") =
      some Sample.openOrder ∧
    (Sample.streamFirst .canceled).standing "o-1" = some (.canceled, 1) ∧
    (Sample.streamFirst .canceled).parts "a-1" "USDT" = some (909, 0) ∧
    (Sample.streamFirst .canceled).reservations.map (·.status) = [.released] ∧
    (Sample.pollFirst .canceled).standing "o-1" = some (.partiallyFilled, 1) ∧
    (Sample.pollFirst .canceled).parts "a-1" "USDT" = some (800, 109) ∧
    (Sample.pollFirst .canceled).reservations.map (·.status) = [.active] := by
  refine ⟨⟨rfl, rfl, rfl, rfl, rfl, rfl, rfl, rfl⟩, rfl, ?_⟩
  decide +kernel

end Store

end SpotSettlement
