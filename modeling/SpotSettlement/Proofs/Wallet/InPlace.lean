import Mathlib.Algebra.Order.Group.MinMax
import SpotSettlement.Proofs.Wallet.Draws

namespace SpotSettlement

/-! # Settling a movement in place

A movement may be settled on a balance and a reservation themselves, one write after the other; then
what was written before a failure stays written.  As long as nothing rounds, no write fails after
another one was done: what the movement needs is known to be there before the first of them.
-/

open Decimal

/-- A balance, and the reservation that a movement on it may draw on. -/
structure Holding where
  balance : WalletBalance
  reservation : Option WalletReservation
  deriving DecidableEq, Inhabited

/-- A computation on a holding, which keeps what it wrote when it fails. -/
abbrev InPlace := ExceptT Failure (StateM Holding)

namespace InPlace

variable {α β : Type}

/-- What may fail, and writes nothing. -/
def attempt (outcome : Except Failure α) : InPlace α := ExceptT.mk (pure outcome)

/-- Writes the balance that a change of it gives. -/
def writeBalance (change : WalletBalance → Except Failure WalletBalance) : InPlace Unit := do
  let balance ← attempt (change (← get).balance)
  modify fun holding => { holding with balance }

/-- Draws an amount from the reservation, and then from the reserved part of the balance. -/
def drawReserved (amount : Decimal) (now : Instant) : InPlace Unit := do
  match (← get).reservation with
  | some held =>
    if amount.isPositive then
      let (_, drawn) ← attempt (held.consume amount now)
      modify fun holding => { holding with reservation := some drawn }
      writeBalance (·.consumeReserved amount now)
  | none => pure ()

def payOut (needed : Decimal) (now : Instant) : InPlace DebitSplit := do
  let { balance, reservation } ← get
  let fromReservation := needed.min (balance.reservable reservation)
  let fromAvailable ← attempt (needed.sub fromReservation)
  if balance.available < fromAvailable then
    let missing ← attempt (fromAvailable.sub balance.available)
    attempt (refuse (WalletError.shortfall balance.account balance.asset missing))
  drawReserved fromReservation now
  if fromAvailable.isPositive then
    writeBalance (·.debit fromAvailable now)
  return ⟨fromReservation, fromAvailable⟩

def applyDelta (delta : Decimal) (now : Instant) : InPlace DebitSplit := do
  if delta.isPositive then
    writeBalance (·.credit delta now)
    return .nothing
  else if delta.isZero then return .nothing
  else payOut delta.neg now

/-- How the computation ends, and what it leaves. -/
def outcome (work : InPlace α) (holding : Holding) : Except Failure α × Holding :=
  work.run.run holding

variable {holding after : Holding} {a : α}

@[simp] theorem outcome_bind {x : InPlace α} {f : α → InPlace β} :
    (x >>= f).outcome holding = match x.outcome holding with
      | (.ok a, after) => (f a).outcome after
      | (.error failure, after) => (.error failure, after) := by
  simp only [outcome, ExceptT.run_bind, StateT.run_bind]
  generalize x.run.run holding = first
  obtain ⟨_ | _, after⟩ := first <;> rfl

@[simp] theorem outcome_get : (get : InPlace Holding).outcome holding = (.ok holding, holding) := rfl

@[simp] theorem outcome_modify (change : Holding → Holding) :
    (modify change : InPlace PUnit).outcome holding = (.ok ⟨⟩, change holding) := rfl

@[simp] theorem outcome_attempt (result : Except Failure α) :
    (attempt result).outcome holding = (result, holding) := rfl

@[simp] theorem outcome_writeBalance (change : WalletBalance → Except Failure WalletBalance) :
    (writeBalance change).outcome holding = match change holding.balance with
      | .ok balance => (.ok (), { holding with balance })
      | .error failure => (.error failure, holding) := by
  simp only [writeBalance, outcome_bind, outcome_get, outcome_attempt]
  cases change holding.balance <;> rfl

/-- The computation ends with what is read off the result, and leaves the holding as it was if that
is a failure. -/
def Commits {σ : Type} (work : InPlace α) (holding : Holding) (result : Except Failure σ)
    (read : σ → α × Holding) : Prop :=
  work.outcome holding = match result with
    | .ok settled => (.ok (read settled).1, (read settled).2)
    | .error failure => (.error failure, holding)

section Commits

variable {σ τ : Type} {read : σ → α × Holding} {x : InPlace β} {f : β → InPlace α}

theorem commits_get_bind {f : Holding → InPlace α} {result : Except Failure σ}
    (rest : (f holding).Commits holding result read) : (get >>= f).Commits holding result read :=
  rest

theorem commits_attempt_bind {result : Except Failure β} {next : β → Except Failure σ}
    (rest : ∀ b, result = .ok b → (f b).Commits holding (next b) read) :
    (attempt result >>= f).Commits holding (result >>= next) read := by
  cases result with
  | error failure => rfl
  | ok b => exact rest b rfl

/-- After a part that may fail, every part has to succeed. -/
theorem commits_bind {middle : τ → β × Holding} {result : Except Failure τ}
    {next : τ → Except Failure σ} (first : x.Commits holding result middle)
    (rest : ∀ t, result = .ok t → ∃ s, next t = .ok s ∧
      (f (middle t).1).outcome (middle t).2 = (.ok (read s).1, (read s).2)) :
    (x >>= f).Commits holding (result >>= next) read := by
  unfold Commits at *
  rw [outcome_bind, first]
  cases result with
  | error failure => rfl
  | ok t =>
      obtain ⟨s, given, done⟩ := rest t rfl
      change (f (middle t).1).outcome (middle t).2 = match next t with
        | .ok settled => _
        | .error failure => _
      rw [given]
      exact done

end Commits

variable {amount needed delta : Decimal} {now : Instant}

/-- The reservation is not drawn on unless the reserved part of the balance covers the draw. -/
theorem drawReserved_commits
    (exact : Exact (holding.balance.drawArithmetic amount holding.reservation))
    (reserved : amount.value ≤ holding.balance.reserved.value) :
    (drawReserved amount now).Commits holding
      (holding.balance.drawReserved holding.reservation amount now)
      (fun drawn => ((), ⟨drawn.1, drawn.2⟩)) := by
  obtain ⟨balance, reservation⟩ := holding
  refine commits_get_bind ?_
  cases reservation with
  | none => rfl
  | some held =>
      unfold WalletBalance.drawReserved
      by_cases positive : amount.isPositive
      · simp only [WalletBalance.drawArithmetic, positive, if_true, exact_cons_iff] at exact ⊢
        obtain ⟨-, ⟨remaining, moved, -⟩, -⟩ := exact
        have drew : balance.consumeReserved amount now =
            .ok { balance with reserved := remaining, updatedAt := now } :=
          WalletBalance.consumeReserved_ok.mpr
            ⟨isPositive_iff_value.mp positive, reserved, remaining, moved, rfl⟩
        refine commits_attempt_bind fun drawn consumed => ?_
        simp only [Commits, outcome_bind, outcome_modify, outcome_writeBalance, drew]
        rfl
      · simp only [positive]
        rfl

/-- What settling a movement leaves, as the end of a computation in place. -/
def ofSettled (settled : Settled) : DebitSplit × Holding :=
  (settled.split, ⟨settled.balance, settled.reservation⟩)

theorem payOut_commits (nonneg : holding.balance.Nonnegative)
    (exact : Exact (holding.balance.payOutArithmetic holding.reservation needed)) :
    (payOut needed now).Commits holding
      (holding.balance.payOut holding.reservation needed now) ofSettled := by
  have within : (needed.min (holding.balance.reservable holding.reservation)).value ≤
      holding.balance.reserved.value := by
    rw [value_min]
    exact (min_le_right _ _).trans (WalletBalance.reservable_le_reserved nonneg)
  unfold payOut WalletBalance.payOut
  unfold WalletBalance.payOutArithmetic at exact
  refine commits_get_bind (commits_attempt_bind fun rest split => ?_)
  generalize needed.min (holding.balance.reservable holding.reservation) = taken at *
  simp only [lift_ok_iff] at split
  simp only [exact_cons_iff, split] at exact
  by_cases short : holding.balance.available < rest
  · rw [if_pos short, if_pos short]
    exact commits_attempt_bind fun missing _ => rfl
  · rw [if_neg short, if_neg short]
    rw [if_neg short, exact_append_iff] at exact
    refine commits_bind (drawReserved_commits exact.2.1 within) fun (drawn, left) drew => ?_
    by_cases positive : rest.isPositive
    · have same := WalletBalance.drawReserved_available drew
      simp only [positive, if_true, ← same] at exact ⊢
      obtain ⟨after, debited⟩ := WalletBalance.debit_exists exact.2.2
        (isPositive_iff_value.mp positive) (by rw [same]; exact not_lt_iff_value.mp short) now
      refine ⟨⟨⟨taken, rest⟩, after, left⟩, by rw [debited]; rfl, ?_⟩
      simp only [outcome_bind, outcome_writeBalance, debited]
      rfl
    · simp only [positive]
      exact ⟨⟨⟨taken, rest⟩, drawn, left⟩, rfl, rfl⟩

/-- If nothing rounds, settling a movement in place ends as settling it does, and a failure writes
nothing. -/
theorem applyDelta_commits (nonneg : holding.balance.Nonnegative)
    (exact : Exact (holding.balance.deltaArithmetic holding.reservation delta)) :
    (applyDelta delta now).Commits holding
      (holding.balance.applyDelta holding.reservation delta now) ofSettled := by
  unfold applyDelta WalletBalance.applyDelta
  unfold WalletBalance.deltaArithmetic at exact
  split
  · simp only [Commits, outcome_bind, outcome_writeBalance]
    cases holding.balance.credit delta now <;> rfl
  · next notPositive =>
      rw [if_neg notPositive] at exact
      split
      · rfl
      · next notZero =>
          rw [if_neg notZero] at exact
          exact payOut_commits nonneg exact

end InPlace

variable {holding after : Holding} {delta : Decimal} {now : Instant} {settled : Settled}

/-- A holding before and after a movement, and what was taken from where. -/
structure Holding.Splits (before : Holding) (delta : ℚ) (split : DebitSplit) (after : Holding) :
    Prop where
  worth : after.balance.worth = before.balance.worth + delta
  nonnegative : after.balance.Nonnegative
  drawn : split.fromReservation.value = before.balance.draw before.reservation (max 0 (-delta))
  reserved : after.balance.reserved.value =
    before.balance.reserved.value - split.fromReservation.value
  held : heldBy after.reservation = heldBy before.reservation - split.fromReservation.value
  whole : split.fromReservation.value + split.fromAvailable.value = max 0 (-delta)
  /-- What is available is only drawn on once the reservation has nothing left to draw. -/
  exhausted : 0 < split.fromAvailable.value →
    (after.balance.reservable after.reservation).value = 0

theorem Holding.splits_nothing (nonneg : holding.balance.Nonnegative)
    (held : 0 ≤ heldBy holding.reservation) (incoming : 0 ≤ delta.value)
    (worth : after.balance.worth = holding.balance.worth + delta.value)
    (nonnegative : after.balance.Nonnegative)
    (reserved : after.balance.reserved = holding.balance.reserved)
    (same : after.reservation = holding.reservation) :
    holding.Splits delta.value .nothing after := by
  have needed : max 0 (-delta.value) = 0 := max_eq_left (by linarith)
  have empty : holding.balance.draw holding.reservation 0 = 0 :=
    min_eq_left (WalletBalance.reservable_nonneg nonneg held)
  refine ⟨worth, nonnegative, ?_, ?_, ?_, ?_, ?_⟩
  · simp [DebitSplit.nothing, needed, empty]
  · simp [DebitSplit.nothing, reserved]
  · simp [DebitSplit.nothing, same]
  · simp [DebitSplit.nothing, needed]
  · simp [DebitSplit.nothing]

theorem WalletBalance.payOut_splits {needed : Decimal}
    (exact : Exact (holding.balance.payOutArithmetic holding.reservation needed))
    (nonneg : holding.balance.Nonnegative) (held : 0 ≤ heldBy holding.reservation)
    (positive : 0 < needed.value) (nonnegative : settled.balance.Nonnegative)
    (paid : holding.balance.payOut holding.reservation needed now = .ok settled) :
    holding.Splits (-needed.value) settled.split ⟨settled.balance, settled.reservation⟩ := by
  obtain ⟨available, reserved, left⟩ := payOut_exact exact nonneg held positive paid
  obtain ⟨rest, -, split, -, shares, -⟩ := payOut_cases paid
  have remaining := (exact_cons_iff.mp exact).1.sub_value split
  have needs : max 0 (- -needed.value) = needed.value := by
    rw [neg_neg, max_eq_right positive.le]
  have drawn : (needed.min (holding.balance.reservable holding.reservation)).value =
      holding.balance.draw holding.reservation needed.value := value_min _ _
  rw [drawn] at remaining
  rw [shares]
  refine ⟨?_, nonnegative, ?_, ?_, ?_, ?_, ?_⟩
  · rw [worth, worth, available, reserved]
    ring
  · rw [needs, drawn]
  · rw [drawn, reserved]
  · rw [drawn, left]
  · rw [needs, drawn, remaining]
    ring
  · intro spent
    rw [remaining, sub_pos] at spent
    -- Less was drawn than needed, so all that can be drawn was.
    have all : holding.balance.draw holding.reservation needed.value =
        (holding.balance.reservable holding.reservation).value :=
      min_eq_right (le_of_not_ge fun enough => spent.ne (min_eq_left enough))
    rw [reservable_eq_min nonnegative, left, reserved, min_sub_sub_right, all,
      reservable_eq_min nonneg, sub_self]

theorem WalletBalance.applyDelta_splits
    (exact : Exact (holding.balance.deltaArithmetic holding.reservation delta))
    (nonneg : holding.balance.Nonnegative) (held : 0 ≤ heldBy holding.reservation)
    (moved : holding.balance.applyDelta holding.reservation delta now = .ok settled) :
    holding.Splits delta.value settled.split ⟨settled.balance, settled.reservation⟩ := by
  have worth := (applyDelta_exact exact nonneg held moved).1
  have nonnegative := (applyDelta_settles moved).nonnegative nonneg
  obtain ⟨after, positive, credited, rfl⟩ | ⟨zero, rfl⟩ | ⟨negative, paid⟩ := applyDelta_cases moved
  · obtain ⟨-, available, -, rfl⟩ := credit_ok.mp credited
    exact Holding.splits_nothing nonneg held positive.le worth nonnegative rfl rfl
  · exact Holding.splits_nothing nonneg held zero.ge worth nonnegative rfl rfl
  · rw [deltaArithmetic_of_neg negative] at exact
    have splits := payOut_splits exact nonneg held (by rw [value_neg]; linarith) nonnegative paid
    rwa [value_neg, neg_neg] at splits

/-- If nothing rounds, settling a movement in place succeeds exactly if it takes nothing out, or if
what the reservation does not cover is available and the reservation is active where it is drawn on.
Then it splits the movement; else it leaves balance and reservation as they are. -/
theorem InPlace.applyDelta_splits_or_keeps (nonneg : holding.balance.Nonnegative)
    (held : 0 ≤ heldBy holding.reservation)
    (exact : Exact (holding.balance.deltaArithmetic holding.reservation delta)) (now : Instant) :
    ((∃ split after, (applyDelta delta now).outcome holding = (.ok split, after)) ↔
      holding.balance.CanSettle holding.reservation delta.value) ∧
    (∀ split after, (applyDelta delta now).outcome holding = (.ok split, after) →
      holding.Splits delta.value split after) ∧
    (∀ failure after, (applyDelta delta now).outcome holding = (.error failure, after) →
      after = holding) ∧
    (applyDelta delta now).Commits holding
      (holding.balance.applyDelta holding.reservation delta now) ofSettled := by
  have commits : (applyDelta delta now).Commits holding
      (holding.balance.applyDelta holding.reservation delta now) ofSettled :=
    applyDelta_commits nonneg exact
  refine ⟨?_, ?_, ?_, commits⟩ <;> unfold Commits at commits
  · constructor
    · rintro ⟨split, after, done⟩
      cases moved : holding.balance.applyDelta holding.reservation delta now with
      | error failure => simp [moved, done] at commits
      | ok settled => exact WalletBalance.applyDelta_canSettle exact nonneg held moved
    · intro settles
      obtain ⟨settled, moved⟩ := WalletBalance.applyDelta_exists exact nonneg settles now
      exact ⟨_, _, by rw [commits, moved]⟩
  · intro split after done
    cases moved : holding.balance.applyDelta holding.reservation delta now with
    | error failure => simp [moved, done] at commits
    | ok settled =>
        rw [done, moved] at commits
        obtain ⟨⟨⟩, rfl⟩ := Prod.mk.inj commits
        exact WalletBalance.applyDelta_splits exact nonneg held moved
  · intro failure after done
    cases moved : holding.balance.applyDelta holding.reservation delta now with
    | error cause =>
        rw [done, moved] at commits
        exact (Prod.mk.inj commits).2
    | ok settled => simp [moved, done] at commits

namespace Sample

/-- Five units are available, and ten reserved, of which an open reservation holds four. -/
def partlyReserved : Holding where
  balance := ⟨"a-1", "USDT", units 5, units 10, default⟩
  reservation := some (.opened "r-1" "a-1" "USDT" (units 4) "o-1" default)

def sevenOut : Decimal := (units 7).neg

end Sample

theorem InPlace.applyDelta_splits_sample :
    Sample.partlyReserved.balance.Nonnegative ∧ 0 ≤ heldBy Sample.partlyReserved.reservation ∧
    Exact (Sample.partlyReserved.balance.deltaArithmetic Sample.partlyReserved.reservation
      Sample.sevenOut) ∧
    ∃ split after,
      (applyDelta Sample.sevenOut default).outcome Sample.partlyReserved = (.ok split, after) ∧
      Sample.partlyReserved.Splits Sample.sevenOut.value split after ∧
      split.fromReservation.value = 4 ∧ split.fromAvailable.value = 3 := by
  have nonneg : Sample.partlyReserved.balance.Nonnegative :=
    ⟨by decide +kernel, by decide +kernel⟩
  have held : 0 ≤ heldBy Sample.partlyReserved.reservation := by decide +kernel
  have exact : Exact (Sample.partlyReserved.balance.deltaArithmetic
      Sample.partlyReserved.reservation Sample.sevenOut) := by decide +kernel
  obtain ⟨succeeds, splits, -⟩ := applyDelta_splits_or_keeps nonneg held exact default
  have settles : Sample.partlyReserved.balance.CanSettle Sample.partlyReserved.reservation
      Sample.sevenOut.value := .inr ⟨by decide +kernel, .inr ⟨_, rfl, rfl⟩⟩
  obtain ⟨split, after, done⟩ := succeeds.mpr settles
  have moved := splits split after done
  have needed : max 0 (-Sample.sevenOut.value) = 7 := by decide +kernel
  have drawn : split.fromReservation.value = 4 := by
    rw [moved.drawn, needed]
    decide +kernel
  refine ⟨nonneg, held, exact, split, after, done, moved, drawn, ?_⟩
  have whole := moved.whole
  rw [drawn, needed] at whole
  linarith

end SpotSettlement
