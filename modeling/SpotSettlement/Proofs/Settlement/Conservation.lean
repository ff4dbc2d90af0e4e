import SpotSettlement.Proofs.Settlement.Reservations

namespace SpotSettlement

/-! # Conservation of funds

As long as nothing rounds, what an account has is what was put into its balances and what the ledger
says that fills have brought it; and the reserved part of a balance is what the active reservations
hold of it.  The ledger itself is balanced, whether or not anything rounds.
-/

open Decimal

theorem Terms.releaseIfClosed_exact {store after : Store} {order : Order} {account : String}
    {now : Instant} {released : Option WalletBalance}
    (done : (releaseIfClosed order now).run store = .ok (released, after))
    (exact : Exact (closingArithmetic order store now))
    (unique : (store.reservations.map (·.id)).Nodup)
    (covered : Funds.Covered store order.id account) : store.Gains after fun _ _ => 0 := by
  obtain ⟨-, -, rfl⟩ | ⟨status, closing, release⟩ := releaseIfClosed_cases done
  · exact .none rfl rfl
  · rw [closingArithmetic, closing, Option.isSome_some, if_pos rfl] at exact
    have inactive : status ≠ .active := by
      rintro rfl
      revert closing
      cases order.status <;> decide
    exact Funds.releaseFor_exact exact unique covered inactive release

namespace Store

variable {store after : Store} {filling : Option ExecutionReport} {operations : List Operation}

theorem booked_append {transaction : LedgerTransaction}
    (ledger : after.ledger = store.ledger ++ [transaction]) (account asset : String) :
    after.booked account asset = store.booked account asset +
      LedgerEntry.sumOf (·.booksOn account asset) transaction.entries := by
  simp only [booked, entries, ledger, List.flatMap_append, List.flatMap_singleton,
    LedgerEntry.sumOf_append]

theorem bookedNet_append {transaction : LedgerTransaction}
    (ledger : after.ledger = store.ledger ++ [transaction]) (asset : String) :
    after.bookedNet asset =
      store.bookedNet asset + LedgerEntry.sumOf (·.asset == asset) transaction.entries := by
  simp only [bookedNet, entries, ledger, List.flatMap_append, List.flatMap_singleton,
    LedgerEntry.sumOf_append]

/-- What a step brings an account is what it books. -/
def GainsBooked (store after : Store) : Prop :=
  store.Gains after fun account asset => after.booked account asset - store.booked account asset

theorem GainsBooked.of_same_ledger (gains : store.Gains after fun _ _ => 0)
    (ledger : after.ledger = store.ledger) : store.GainsBooked after := by
  have same : (fun account asset => after.booked account asset - store.booked account asset) =
      fun _ _ => 0 := by
    funext account asset
    simp [booked, entries, ledger]
  rw [GainsBooked, same]
  exact gains

theorem fills_gains {terms : Terms} {order : Order} {report : ExecutionReport} {now : Instant}
    {outcome : IngestOutcome} (fills : terms.Fills order report now store outcome after)
    (exact : Exact (terms.fillArithmetic order report store now)) (funded : store.Funded)
    (member : order ∈ store.orders) : store.GainsBooked after := by
  cases fills with
  | @applied _ economics deltas _ settled transaction _ moved _ closed _ _ _ _
      listed valued netted settle book advance close _ _ _ _ =>
      have advances := Order.applyFill_advances advance
      have issued := funded.identified.reservations
      have funds := Funds.settleFill_funds settle
      have backed := funded.backing.backed order member
      have drawn := Funds.settleFill_backs settle issued.1 backed
      simp only [Terms.fillArithmetic, listed, valued, exact_cons_iff, Terms.settlementArithmetic,
        netted, settle, book, exact_append_iff, Terms.advanceArithmetic, advance] at exact
      obtain ⟨-, netExact, settleExact, -, closeExact⟩ := exact
      have paid := Funds.settleFill_exact settleExact funded.solvent issued.1 backed.covered settle
      have unique := (funds.issued (issued.mono (Nat.le_succ _))).1
      have returned := Terms.releaseIfClosed_exact close closeExact unique
        (advances.id ▸ drawn.backed.covered)
      have ledger := (Terms.releaseIfClosed_funds close).ledger.trans
        (congrArg (· ++ [transaction]) funds.ledger)
      intro account asset
      obtain ⟨worthPaid, heldPaid⟩ := paid account asset
      obtain ⟨worthReturned, heldReturned⟩ := returned account asset
      refine ⟨?_, heldReturned.trans heldPaid⟩
      have bookedNow := booked_append ledger account asset
      rw [LedgerTransaction.ofExecution_ok book, LedgerTransaction.sumOf_entries,
        ← economics.netDeltas_exact netExact netted] at bookedNow
      change closed.worth account asset = store.worth account asset + (closed.booked account asset -
        (store.withExecution (Terms.executionOf store order report)).booked account asset)
      rw [bookedNow, worthReturned]
      change settled.worth account asset + 0 = _
      rw [worthPaid, add_zero, add_sub_cancel_left]
      rfl

theorem Step.gains (step : store.Step filling operations after) (exact : Exact operations)
    (funded : store.Funded) : store.GainsBooked after := by
  cases step with
  | idle => exact .of_same_ledger (.none rfl rfl) rfl
  | created _ _ _ reserve _ _ =>
      have gains := Funds.reserveFor_exact exact reserve
      exact .of_same_ledger gains (Funds.reserveFor_funds reserve).ledger
  | moved _ member change close _ _ =>
      have covered := (funded.backing.backed _ member).covered
      rw [← change.advances.id] at covered
      have gains := Terms.releaseIfClosed_exact close exact funded.identified.reservations.1 covered
      exact .of_same_ledger gains (Terms.releaseIfClosed_funds close).ledger
  | filled resolved _ fills =>
      exact fills_gains fills exact funded (Terms.resolveOrder?_mem resolved)

/-- The two sides of every booking cancel. -/
theorem Step.bookedNet (step : store.Step filling operations after) (asset : String) :
    after.bookedNet asset = store.bookedNet asset := by
  cases step with
  | idle => rfl
  | created _ _ _ reserve _ _ =>
      exact congrArg (fun ledger => LedgerEntry.sumOf (·.asset == asset)
        (ledger.flatMap LedgerTransaction.entries)) (Funds.reserveFor_funds reserve).ledger
  | moved _ _ _ close _ _ =>
      exact congrArg (fun ledger => LedgerEntry.sumOf (·.asset == asset)
        (ledger.flatMap LedgerTransaction.entries)) (Terms.releaseIfClosed_funds close).ledger
  | filled _ _ fills =>
      cases fills with
      | @applied _ _ _ _ _ transaction _ _ _ closed _ _ _ _ _ _ _ settle book _ close _ _ _ _ =>
          have ledger : closed.ledger = store.ledger ++ [transaction] :=
            (Terms.releaseIfClosed_funds close).ledger.trans
              (congrArg (· ++ [transaction]) (Funds.settleFill_funds settle).ledger)
          have booked := bookedNet_append ledger asset
          rw [LedgerTransaction.ofExecution_ok book, LedgerTransaction.sumOf_entries_asset,
            add_zero] at booked
          exact booked

end Store

def Request.seeds (account asset : String) : Request → ℚ
  | .seed owner seeded amount _ => if owner = account ∧ seeded = asset then amount.value else 0
  | .settle .. => 0

def seeded (run : List Request) (account asset : String) : ℚ :=
  (run.map (·.seeds account asset)).sum

namespace Store

variable {store : Store} {run : List Request}

theorem apply_gains {request : Request} (exact : Exact (request.arithmetic store))
    (funded : store.Funded) : store.Gains (request.apply store) fun account asset =>
      request.seeds account asset +
        ((request.apply store).booked account asset - store.booked account asset) := by
  cases request with
  | settle call terms now =>
      have gains := (call.step terms now store).gains exact funded
      intro account asset
      simp only [Request.seeds, zero_add]
      exact gains account asset
  | seed owner seeded amount now =>
      obtain ⟨overflow, added, -⟩ | ⟨available, added, written⟩ :=
        store.seed_cases owner seeded amount now
      · obtain ⟨sum, fits, -⟩ := exact_cons_iff.mp exact |>.1
        cases added.symm.trans fits
      · have sum := (exact_cons_iff.mp exact).1.add_value added
        have keys := store.balanceOf_key owner seeded now
        have worth := store.balanceOf_worth owner seeded now
        have reserved := store.balanceOf_reserved owner seeded now
        rw [written]
        intro account asset
        simp only [worth_withBalance, reservedOf_withBalance, Request.seeds, keys.1, keys.2]
        by_cases same : owner = account ∧ seeded = asset
        · obtain ⟨rfl, rfl⟩ := same
          simp only [and_self, if_true, WalletBalance.worth, sum]
          rw [WalletBalance.worth] at worth
          constructor
          · change _ = _ + (_ + (store.booked owner seeded - store.booked owner seeded))
            linarith
          · rw [reserved]
            rfl
        · rw [if_neg same, if_neg same, if_neg same]
          constructor
          · change _ = _ + (_ + (store.booked account asset - store.booked account asset))
            ring
          · rfl

theorem afterAll_gains (nonneg : ∀ request ∈ run, request.Nonnegative)
    (exact : Exact (store.arithmetic run)) (funded : store.Funded) :
    store.Gains (store.afterAll run) fun account asset => seeded run account asset +
      ((store.afterAll run).booked account asset - store.booked account asset) := by
  -- The gains of each request rest on what the requests before it have kept of the funds.
  induction run generalizing store with
  | nil =>
      intro account asset
      simp [afterAll, seeded]
  | cons request rest ih =>
      rw [arithmetic, exact_append_iff] at exact
      have later : ∀ other ∈ rest, other.Nonnegative := fun other member =>
        nonneg other (List.mem_cons_of_mem request member)
      have first := apply_gains exact.1 funded
      have others := ih later exact.2 (apply_funded (nonneg request List.mem_cons_self) funded)
      intro account asset
      obtain ⟨worthFirst, heldFirst⟩ := first account asset
      obtain ⟨worthOthers, heldOthers⟩ := others account asset
      rw [afterAll_cons]
      refine ⟨?_, heldOthers.trans heldFirst⟩
      simp only [worthOthers, worthFirst, seeded, List.map_cons, List.sum_cons]
      ring

/-- What an account has is what was put into its balances and what the ledger says that fills have
brought it, and the entries of the ledger cancel in every asset. -/
theorem wallets_agree_with_ledger (run : List Request)
    (nonneg : ∀ request ∈ run, request.Nonnegative)
    (exact : Exact (({} : Store).arithmetic run)) :
    (∀ account asset, (reached run).worth account asset =
      seeded run account asset + (reached run).booked account asset) ∧
    ∀ asset, (reached run).bookedNet asset = 0 := by
  constructor
  · intro account asset
    have gains := (afterAll_gains nonneg exact empty_funded account asset).1
    have empty : ({} : Store).worth account asset = 0 := rfl
    have unbooked : ({} : Store).booked account asset = 0 := rfl
    simp only [empty, unbooked, sub_zero, zero_add] at gains
    exact gains
  · intro asset
    refine afterAll_induction (·.bookedNet asset = 0) rfl ?_
    intro request _ store balanced
    exact apply_induction (·.bookedNet asset = 0) request balanced (fun _ balanced => balanced)
      fun step balanced => (step.bookedNet asset).trans balanced

theorem sample_agrees_with_ledger :
    Exact (({} : Store).arithmetic Sample.canceled) ∧
    (reached Sample.canceled).worth "a-1" "USDT" =
      seeded Sample.canceled "a-1" "USDT" + (reached Sample.canceled).booked "a-1" "USDT" ∧
    (reached Sample.canceled).booked "a-1" "USDT" = -91 ∧
    (reached Sample.canceled).bookedNet "USDT" = 0 := by
  have exact : Exact (({} : Store).arithmetic Sample.canceled) := by decide +kernel
  have agrees := wallets_agree_with_ledger Sample.canceled (by decide +kernel) exact
  exact ⟨exact, agrees.1 "a-1" "USDT", by decide +kernel, agrees.2 "USDT"⟩

/-- The reservations that an order has, by its status. -/
theorem backed_by_status {order : Order} {reservations : List WalletReservation}
    (backed : order.BackedBy reservations) :
    if order.side = .buy ∧ order.orderType = .market then reservations = []
    else ∃ reservation, reservations = [reservation] ∧
      match order.status with
      | .new | .acknowledged | .partiallyFilled => reservation.status = .active
      | .canceled => reservation.status = .released ∧ reservation.amount = .zero
      | .rejected => reservation.status = .cancelled ∧ reservation.amount = .zero
      | .filled => reservation.status = .consumed ∧ reservation.amount = .zero := by
  unfold Order.BackedBy Order.reserves at backed
  split
  · next market =>
      rw [if_neg (by simp [market])] at backed
      exact backed
  · next reserves =>
      rw [if_pos (by cases side : order.side <;> cases type : order.orderType <;> simp_all)]
        at backed
      obtain ⟨reservation, only, -, status, -, emptied⟩ := backed
      refine ⟨reservation, only, ?_⟩
      cases current : order.status <;> rw [current] at status emptied
      case new | acknowledged | partiallyFilled => exact status
      case canceled | rejected | filled => exact ⟨status, emptied rfl⟩

/-- No part of a balance is below zero, the reserved part is what the active reservations hold, and
an order has one reservation or none: one that is active until the order is closed, and is then left
empty in a status that tells how; none, if it is a purchase at market.  However the run goes on, an
order has no other reservation afterwards. -/
theorem reserved_funds_are_open_reservations (run : List Request)
    (nonneg : ∀ request ∈ run, request.Nonnegative) :
    (∀ balance ∈ (reached run).balances,
      0 ≤ balance.available.value ∧ 0 ≤ balance.reserved.value) ∧
    (Exact (({} : Store).arithmetic run) → ∀ account asset,
      (reached run).reservedOf account asset = (reached run).heldFor account asset) ∧
    (∀ order ∈ (reached run).orders,
      if order.side = .buy ∧ order.orderType = .market then
        (reached run).reservationsOf order.id = []
      else ∃ reservation, (reached run).reservationsOf order.id = [reservation] ∧
        match order.status with
        | .new | .acknowledged | .partiallyFilled => reservation.status = .active
        | .canceled => reservation.status = .released ∧ reservation.amount = .zero
        | .rejected => reservation.status = .cancelled ∧ reservation.amount = .zero
        | .filled => reservation.status = .consumed ∧ reservation.amount = .zero) ∧
    ∀ later : List Request, (∀ request ∈ later, request.Nonnegative) →
      (reached run).KeepsReservations (reached (run ++ later)) := by
  have funded : (reached run).Funded := afterAll_funded nonneg empty_funded
  refine ⟨funded.solvent, ?_, ?_, ?_⟩
  · intro exact account asset
    have held := (afterAll_gains nonneg exact empty_funded account asset).2
    have empty : ({} : Store).reservedOf account asset - ({} : Store).heldFor account asset = 0 :=
      sub_self 0
    exact sub_eq_zero.mp (held.trans empty)
  · intro order member
    exact backed_by_status (funded.backing.backed order member)
  · intro later laterNonneg
    rw [reached, reached, afterAll_append]
    exact afterAll_keepsReservations laterNonneg funded

theorem sample_reserves_for_open_order :
    Exact (({} : Store).arithmetic Sample.traded) ∧
    (reached Sample.traded).reservedOf "a-1" "USDT" =
      (reached Sample.traded).heldFor "a-1" "USDT" ∧
    (reached Sample.traded).heldFor "a-1" "USDT" = 109 ∧
    (reached Sample.traded).KeepsReservations (reached (Sample.traded ++ Sample.canceled)) := by
  have exact : Exact (({} : Store).arithmetic Sample.traded) := by decide +kernel
  obtain ⟨-, agree, -, keeps⟩ :=
    reserved_funds_are_open_reservations Sample.traded (by decide +kernel)
  exact ⟨exact, agree exact "a-1" "USDT", by decide +kernel,
    keeps Sample.canceled (by decide +kernel)⟩

end Store

end SpotSettlement
