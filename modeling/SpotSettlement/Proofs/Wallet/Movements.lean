import SpotSettlement.Proofs.Decimal.Value
import SpotSettlement.Proofs.Work
import SpotSettlement.Wallet.Delta

namespace SpotSettlement

/-! # Movements of funds

What the operations on a balance and on a reservation do when they succeed, and the arithmetic that
they do.  A movement keeps both parts of a balance at zero or above, whether or not it rounds; if it
does not round, the balance changes by the amount of the movement, and what leaves the reserved part
is what is drawn from the reservation.
-/

open Decimal

variable {balance after : WalletBalance} {reservation : Option WalletReservation}
  {amount needed delta : Decimal} {now : Instant} {settled : Settled}

namespace WalletBalance

/-- Neither part is below zero. -/
def Nonnegative (balance : WalletBalance) : Prop :=
  0 ≤ balance.available.value ∧ 0 ≤ balance.reserved.value

def worth (balance : WalletBalance) : ℚ := balance.available.value + balance.reserved.value

theorem requireAmount_ok {u : Unit} : requireAmount amount = .ok u ↔ 0 < amount.value := by
  rw [← isPositive_iff_value]
  unfold requireAmount
  split <;> simp [*]

theorem requireReserved_ok {u : Unit} :
    balance.requireReserved amount = .ok u ↔ amount.value ≤ balance.reserved.value := by
  rw [← not_lt_iff_value]
  unfold requireReserved
  split <;> simp [*]

theorem reserve_ok : balance.reserve amount now = .ok after ↔
    0 < amount.value ∧ amount.value ≤ balance.available.value ∧
      ∃ available, balance.available.sub amount = .ok available ∧
      ∃ reserved, balance.reserved.add amount = .ok reserved ∧
        { balance with available, reserved, updatedAt := now } = after := by
  unfold reserve
  simp only [bind_ok_iff, lift_ok_iff, requireAmount_ok, exists_const, ite_eq_iff, refuse_ok_iff,
    false_and, and_false, false_or, pure_ok_iff, not_lt_iff_value]

theorem release_ok : balance.release amount now = .ok after ↔
    0 < amount.value ∧ amount.value ≤ balance.reserved.value ∧
      ∃ reserved, balance.reserved.sub amount = .ok reserved ∧
      ∃ available, balance.available.add amount = .ok available ∧
        { balance with available, reserved, updatedAt := now } = after := by
  unfold release
  simp only [bind_ok_iff, lift_ok_iff, requireAmount_ok, requireReserved_ok, exists_const,
    pure_ok_iff]

theorem consumeReserved_ok : balance.consumeReserved amount now = .ok after ↔
    0 < amount.value ∧ amount.value ≤ balance.reserved.value ∧ ∃ reserved,
      balance.reserved.sub amount = .ok reserved ∧
      { balance with reserved, updatedAt := now } = after := by
  unfold consumeReserved
  simp only [bind_ok_iff, lift_ok_iff, requireAmount_ok, requireReserved_ok, exists_const,
    pure_ok_iff]

theorem credit_ok : balance.credit amount now = .ok after ↔
    0 < amount.value ∧ ∃ available, balance.available.add amount = .ok available ∧
      { balance with available, updatedAt := now } = after := by
  unfold credit
  simp only [bind_ok_iff, lift_ok_iff, requireAmount_ok, exists_const, pure_ok_iff]

theorem debit_ok : balance.debit amount now = .ok after ↔
    0 < amount.value ∧ amount.value ≤ balance.available.value ∧ ∃ available,
      balance.available.sub amount = .ok available ∧
      { balance with available, updatedAt := now } = after := by
  unfold debit
  simp only [bind_ok_iff, lift_ok_iff, requireAmount_ok, exists_const, ite_eq_iff, refuse_ok_iff,
    false_and, and_false, false_or, pure_ok_iff, not_lt_iff_value]

end WalletBalance

namespace WalletReservation

variable {held drawn : WalletReservation} {taken : Decimal} {status : ReservationStatus}

theorem requireActive_ok {u : Unit} : held.requireActive = .ok u ↔ held.status = .active := by
  unfold requireActive
  split <;> simp [*]

theorem consume_ok : held.consume amount now = .ok (taken, drawn) ↔
    held.status = .active ∧ (amount.min held.amount).max .zero = taken ∧ ∃ rest,
      held.amount.sub taken = .ok rest ∧ { held with amount := rest, updatedAt := now } = drawn := by
  unfold consume
  simp only [bind_ok_iff, lift_ok_iff, requireActive_ok, exists_const, pure_ok_iff, Prod.mk.injEq]
  grind

theorem close_ok : held.close status now = .ok (taken, drawn) ↔
    held.status = .active ∧ held.amount = taken ∧
      { held with amount := .zero, status, updatedAt := now } = drawn := by
  unfold close
  simp only [bind_ok_iff, requireActive_ok, exists_const, pure_ok_iff, Prod.mk.injEq]

end WalletReservation

/-- What a reservation still holds; nothing, if there is none. -/
def heldBy : Option WalletReservation → ℚ
  | some held => held.amount.value
  | none => 0

/-- A reservation after a draw: what it holds may have changed, and nothing else that counts. -/
structure WalletReservation.Drawn (held drawn : WalletReservation) : Prop where
  id : drawn.id = held.id
  account : drawn.account = held.account
  asset : drawn.asset = held.asset
  orderId : drawn.orderId = held.orderId
  status : drawn.status = held.status

theorem WalletReservation.Drawn.refl (held : WalletReservation) : held.Drawn held :=
  ⟨rfl, rfl, rfl, rfl, rfl⟩

theorem WalletReservation.Drawn.trans {held midway drawn : WalletReservation}
    (first : held.Drawn midway) (second : midway.Drawn drawn) : held.Drawn drawn where
  id := second.id.trans first.id
  account := second.account.trans first.account
  asset := second.asset.trans first.asset
  orderId := second.orderId.trans first.orderId
  status := second.status.trans first.status

/-- What settling a movement does to a balance and to the reservation it may draw on. -/
structure Settles (balance : WalletBalance) (reservation : Option WalletReservation)
    (settled : Settled) : Prop where
  account : settled.balance.account = balance.account
  asset : settled.balance.asset = balance.asset
  drawn : Option.Rel WalletReservation.Drawn reservation settled.reservation
  untouched : settled.split.fromReservation.value ≤ 0 → settled.reservation = reservation
  nonnegative : balance.Nonnegative → settled.balance.Nonnegative
  held_nonneg : 0 ≤ heldBy reservation → 0 ≤ heldBy settled.reservation

namespace WalletBalance

variable {drawn : WalletBalance} {taken : Option WalletReservation}

/-- A draw leaves everything as it is, unless there is something to draw and a reservation. -/
theorem drawReserved_cases
    (drew : balance.drawReserved reservation amount now = .ok (drawn, taken)) :
    ((amount.value ≤ 0 ∨ reservation = none) ∧ drawn = balance ∧ taken = reservation) ∨
    ∃ held rest reserved, reservation = some held ∧ 0 < amount.value ∧ held.status = .active ∧
      held.amount.sub ((amount.min held.amount).max .zero) = .ok rest ∧
      taken = some { held with amount := rest, updatedAt := now } ∧
      amount.value ≤ balance.reserved.value ∧ balance.reserved.sub amount = .ok reserved ∧
      drawn = { balance with reserved, updatedAt := now } := by
  cases reservation with
  | none =>
      simp only [drawReserved, Except.ok.injEq, Prod.mk.injEq] at drew
      exact .inl ⟨.inr rfl, drew.1.symm, drew.2.symm⟩
  | some held =>
      simp only [drawReserved] at drew
      split at drew
      case isFalse empty =>
        rw [isPositive_iff_value, not_lt] at empty
        cases drew
        exact .inl ⟨.inl empty, rfl, rfl⟩
      case isTrue positive =>
        rw [isPositive_iff_value] at positive
        simp only [bind_ok_iff, pure_ok_iff, Prod.exists, Prod.mk.injEq] at drew
        obtain ⟨spent, rest, spending, next, consumed, rfl, rfl⟩ := drew
        obtain ⟨active, rfl, left, spare, rfl⟩ := WalletReservation.consume_ok.mp spending
        obtain ⟨-, covered, reserved, moved, rfl⟩ := consumeReserved_ok.mp consumed
        exact .inr ⟨held, left, reserved, rfl, positive, active, spare, rfl, covered, moved, rfl⟩

/-- Paying out splits the amount between the reservation and what is available. -/
theorem payOut_cases (paid : balance.payOut reservation needed now = .ok settled) :
    ∃ rest drawn, needed.sub (needed.min (balance.reservable reservation)) = .ok rest ∧
      rest.value ≤ balance.available.value ∧
      settled.split = ⟨needed.min (balance.reservable reservation), rest⟩ ∧
      balance.drawReserved reservation (needed.min (balance.reservable reservation)) now =
        .ok (drawn, settled.reservation) ∧
      (rest.value ≤ 0 ∧ settled.balance = drawn ∨
        0 < rest.value ∧ drawn.debit rest now = .ok settled.balance) := by
  unfold payOut at paid
  simp only [bind_ok_iff, lift_ok_iff] at paid
  obtain ⟨rest, split, paid⟩ := paid
  refine ⟨rest, ?_⟩
  split at paid
  · simp only [bind_ok_iff, refuse_ok_iff, false_and, exists_false, and_false] at paid
  · next covered =>
      rw [not_lt_iff_value] at covered
      obtain ⟨⟨drawn, taken⟩, drew, paid⟩ := bind_ok_iff.mp paid
      refine ⟨drawn, split, covered, ?_⟩
      split at paid
      · next positive =>
          rw [isPositive_iff_value] at positive
          simp only [bind_ok_iff, pure_ok_iff] at paid
          obtain ⟨final, debited, rfl⟩ := paid
          exact ⟨rfl, drew, .inr ⟨positive, debited⟩⟩
      · next empty =>
          rw [isPositive_iff_value, not_lt] at empty
          simp only [pure_bind, pure_ok_iff] at paid
          subst settled
          exact ⟨rfl, drew, .inl ⟨empty, rfl⟩⟩

/-- A movement is credited if it is positive, does nothing if it is zero, and is paid out else. -/
theorem applyDelta_cases (moved : balance.applyDelta reservation delta now = .ok settled) :
    (∃ after, 0 < delta.value ∧ balance.credit delta now = .ok after ∧
      settled = ⟨.nothing, after, reservation⟩) ∨
    (delta.value = 0 ∧ settled = ⟨.nothing, balance, reservation⟩) ∨
    (delta.value < 0 ∧ balance.payOut reservation delta.neg now = .ok settled) := by
  unfold applyDelta at moved
  split at moved
  · next positive =>
      simp only [bind_ok_iff, pure_ok_iff] at moved
      obtain ⟨after, credited, rfl⟩ := moved
      exact .inl ⟨after, isPositive_iff_value.mp positive, credited, rfl⟩
  · next notPositive =>
      split at moved
      · next zero =>
          cases moved
          exact .inr (.inl ⟨isZero_iff_value.mp zero, rfl⟩)
      · next notZero =>
          rw [isPositive_iff_value, not_lt] at notPositive
          rw [isZero_iff_value] at notZero
          exact .inr (.inr ⟨lt_of_le_of_ne notPositive notZero, moved⟩)

theorem debit_nonnegative (nonneg : balance.Nonnegative)
    (debited : balance.debit amount now = .ok after) : after.Nonnegative := by
  obtain ⟨positive, covered, available, taken, rfl⟩ := debit_ok.mp debited
  exact ⟨sub_nonneg_of_le covered positive.le taken, nonneg.2⟩

theorem credit_nonnegative (nonneg : balance.Nonnegative)
    (credited : balance.credit amount now = .ok after) : after.Nonnegative := by
  obtain ⟨positive, available, added, rfl⟩ := credit_ok.mp credited
  exact ⟨add_nonneg nonneg.1 positive.le added, nonneg.2⟩

theorem reserve_nonnegative (nonneg : balance.Nonnegative)
    (reserved : balance.reserve amount now = .ok after) : after.Nonnegative := by
  obtain ⟨positive, covered, available, taken, reserved, added, rfl⟩ := reserve_ok.mp reserved
  exact ⟨sub_nonneg_of_le covered positive.le taken, add_nonneg nonneg.2 positive.le added⟩

theorem release_nonnegative (nonneg : balance.Nonnegative)
    (released : balance.release amount now = .ok after) : after.Nonnegative := by
  obtain ⟨positive, covered, reserved, taken, available, added, rfl⟩ := release_ok.mp released
  exact ⟨add_nonneg nonneg.1 positive.le added, sub_nonneg_of_le covered positive.le taken⟩

/-- What is taken from a reservation never exceeds it. -/
theorem spent_le (held amount : Decimal) (nonneg : 0 ≤ held.value) :
    ((amount.min held).max .zero).value ≤ held.value ∧ 0 ≤ ((amount.min held).max .zero).value := by
  simp [nonneg]

theorem drawReserved_settles {split : DebitSplit} (drew :
    balance.drawReserved reservation split.fromReservation now = .ok (drawn, taken)) :
    Settles balance reservation ⟨split, drawn, taken⟩ := by
  obtain ⟨-, rfl, rfl⟩ | ⟨held, rest, reserved, rfl, positive, -, spare, rfl, covered, moved, rfl⟩ :=
    drawReserved_cases drew
  · refine ⟨rfl, rfl, ?_, fun _ => rfl, id, id⟩
    cases taken with
    | none => exact .none
    | some held => exact .some (.refl held)
  · refine ⟨rfl, rfl, .some ⟨rfl, rfl, rfl, rfl, rfl⟩, ?_, ?_, ?_⟩
    · intro nothing
      exact absurd positive (not_lt.mpr nothing)
    · intro nonneg
      exact ⟨nonneg.1, sub_nonneg_of_le covered positive.le moved⟩
    · intro nonneg
      have bounds := spent_le held.amount split.fromReservation nonneg
      exact sub_nonneg_of_le bounds.1 bounds.2 spare

theorem applyDelta_settles (moved : balance.applyDelta reservation delta now = .ok settled) :
    Settles balance reservation settled := by
  have kept : Option.Rel WalletReservation.Drawn reservation reservation := by
    cases reservation with
    | none => exact .none
    | some held => exact .some (.refl held)
  obtain ⟨after, -, credited, rfl⟩ | ⟨-, rfl⟩ | ⟨-, paid⟩ := applyDelta_cases moved
  · obtain ⟨-, available, -, rfl⟩ := credit_ok.mp credited
    exact ⟨rfl, rfl, kept, fun _ => rfl, fun nonneg => credit_nonnegative nonneg credited, id⟩
  · exact ⟨rfl, rfl, kept, fun _ => rfl, id, id⟩
  · obtain ⟨rest, drawn, -, -, split, drew, spent⟩ := payOut_cases paid
    have settles : Settles balance reservation ⟨settled.split, drawn, settled.reservation⟩ :=
      drawReserved_settles (by rw [split]; exact drew)
    obtain ⟨-, same⟩ | ⟨-, debited⟩ := spent
    · rw [← same] at settles
      exact settles
    · obtain ⟨-, -, available, -, same⟩ := debit_ok.mp debited
      refine ⟨?_, ?_, settles.drawn, settles.untouched, ?_, settles.held_nonneg⟩
      · rw [← same]; exact settles.account
      · rw [← same]; exact settles.asset
      · exact fun nonneg => debit_nonnegative (settles.nonnegative nonneg) debited

def reserveArithmetic (balance : WalletBalance) (amount : Decimal) : List Operation :=
  if amount.isPositive ∧ ¬balance.available < amount then
    [.sub balance.available amount, .add balance.reserved amount]
  else []

def releaseArithmetic (balance : WalletBalance) (amount : Decimal) : List Operation :=
  if amount.isPositive ∧ ¬balance.reserved < amount then
    [.sub balance.reserved amount, .add balance.available amount]
  else []

def drawArithmetic (balance : WalletBalance) (amount : Decimal) :
    Option WalletReservation → List Operation
  | some held =>
    if amount.isPositive then
      [.sub held.amount ((amount.min held.amount).max .zero), .sub balance.reserved amount]
    else []
  | none => []

def payOutArithmetic (balance : WalletBalance) (reservation : Option WalletReservation)
    (needed : Decimal) : List Operation :=
  let taken := needed.min (balance.reservable reservation)
  .sub needed taken ::
    match needed.sub taken with
    | .ok rest =>
      if balance.available < rest then [.sub rest balance.available]
      else balance.drawArithmetic taken reservation ++
        if rest.isPositive then [.sub balance.available rest] else []
    | .error _ => []

def deltaArithmetic (balance : WalletBalance) (reservation : Option WalletReservation)
    (delta : Decimal) : List Operation :=
  if delta.isPositive then [.add balance.available delta]
  else if delta.isZero then []
  else balance.payOutArithmetic reservation delta.neg

theorem reserve_exact (exact : Exact (balance.reserveArithmetic amount))
    (reserved : balance.reserve amount now = .ok after) :
    after.available.value = balance.available.value - amount.value ∧
      after.reserved.value = balance.reserved.value + amount.value := by
  obtain ⟨positive, covered, available, taken, reserved, added, rfl⟩ := reserve_ok.mp reserved
  rw [reserveArithmetic, if_pos ⟨isPositive_iff_value.mpr positive, not_lt_iff_value.mpr covered⟩,
    exact_cons_iff, exact_cons_iff] at exact
  exact ⟨exact.1.sub_value taken, exact.2.1.add_value added⟩

theorem release_exact (exact : Exact (balance.releaseArithmetic amount))
    (released : balance.release amount now = .ok after) :
    after.available.value = balance.available.value + amount.value ∧
      after.reserved.value = balance.reserved.value - amount.value := by
  obtain ⟨positive, covered, reserved, taken, available, added, rfl⟩ := release_ok.mp released
  rw [releaseArithmetic, if_pos ⟨isPositive_iff_value.mpr positive, not_lt_iff_value.mpr covered⟩,
    exact_cons_iff, exact_cons_iff] at exact
  exact ⟨exact.2.1.add_value added, exact.1.sub_value taken⟩

theorem reservable_value (reservation : Option WalletReservation) :
    (balance.reservable reservation).value ≤ heldBy reservation := by
  cases reservation <;> simp [reservable, heldBy]

theorem reservable_nonneg (nonneg : balance.Nonnegative) (held : 0 ≤ heldBy reservation) :
    0 ≤ (balance.reservable reservation).value := by
  cases reservation with
  | none => simp [reservable]
  | some reservation => simpa [reservable, heldBy, nonneg.2] using held

/-- A draw that does not round takes one amount from the reserved part and from the reservation. -/
theorem drawReserved_exact (exact : Exact (balance.drawArithmetic amount reservation))
    (nonneg : 0 ≤ amount.value) (within : amount.value ≤ heldBy reservation)
    (drew : balance.drawReserved reservation amount now = .ok (drawn, taken)) :
    drawn.available = balance.available ∧
      drawn.reserved.value = balance.reserved.value - amount.value ∧
      heldBy taken = heldBy reservation - amount.value := by
  obtain ⟨nothing, rfl, rfl⟩ |
    ⟨held, rest, reserved, rfl, positive, -, spare, rfl, covered, moved, rfl⟩ :=
    drawReserved_cases drew
  · have zero : amount.value = 0 := by
      obtain nothing | rfl := nothing
      · exact le_antisymm nothing nonneg
      · exact le_antisymm within nonneg
    simp [zero]
  · rw [drawArithmetic, if_pos (isPositive_iff_value.mpr positive), exact_cons_iff,
      exact_cons_iff] at exact
    have covers : amount.value ≤ held.amount.value := within
    have spent : ((amount.min held.amount).max .zero).value = amount.value := by
      rw [value_max, value_min, min_eq_left covers, value_zero, max_eq_left nonneg]
    refine ⟨rfl, exact.2.1.sub_value moved, ?_⟩
    have left := exact.1.sub_value spare
    rw [spent] at left
    exact left

/-- What paying out an amount takes from the reservation, if nothing rounds. -/
def draw (balance : WalletBalance) (reservation : Option WalletReservation) (needed : ℚ) : ℚ :=
  Min.min needed (balance.reservable reservation).value

/-- Paying out without rounding draws on the reservation first, and takes the rest from what is
available. -/
theorem payOut_exact (exact : Exact (balance.payOutArithmetic reservation needed))
    (nonneg : balance.Nonnegative) (held : 0 ≤ heldBy reservation) (positive : 0 < needed.value)
    (paid : balance.payOut reservation needed now = .ok settled) :
    settled.balance.available.value =
        balance.available.value - (needed.value - balance.draw reservation needed.value) ∧
      settled.balance.reserved.value =
        balance.reserved.value - balance.draw reservation needed.value ∧
      heldBy settled.reservation =
        heldBy reservation - balance.draw reservation needed.value := by
  obtain ⟨rest, drawn, split, covered, -, drew, spent⟩ := payOut_cases paid
  simp only [payOutArithmetic, split, not_lt_iff_value.mpr covered, if_false, exact_cons_iff,
    exact_append_iff] at exact
  obtain ⟨splitExact, drawExact, debitExact⟩ := exact
  have remaining := splitExact.sub_value split
  have reservable := reservable_nonneg nonneg held
  have takenValue : (needed.min (balance.reservable reservation)).value =
      balance.draw reservation needed.value := value_min _ _
  obtain ⟨available, reserved, left⟩ := drawReserved_exact drawExact
    (by rw [takenValue]; exact le_min positive.le reservable)
    (by rw [takenValue]; exact (min_le_right _ _).trans (reservable_value reservation)) drew
  rw [takenValue] at remaining reserved left
  obtain ⟨nothing, same⟩ | ⟨positive, debited⟩ := spent
  · have enough : balance.draw reservation needed.value ≤ needed.value := min_le_left _ _
    have whole : rest.value = 0 := le_antisymm nothing (by linarith)
    rw [same]
    exact ⟨by rw [available]; linarith, reserved, left⟩
  · rw [if_pos (isPositive_iff_value.mpr positive), exact_cons_iff] at debitExact
    obtain ⟨-, -, final, taken, same⟩ := debit_ok.mp debited
    rw [available] at taken
    have finalValue := debitExact.1.sub_value taken
    rw [← same]
    exact ⟨finalValue.trans (by linarith), reserved, left⟩

theorem deltaArithmetic_of_neg (negative : delta.value < 0) :
    balance.deltaArithmetic reservation delta = balance.payOutArithmetic reservation delta.neg := by
  have notPositive : ¬delta.isPositive = true := by
    rw [isPositive_iff_value]
    exact negative.not_gt
  have notZero : ¬delta.isZero = true := by
    rw [isZero_iff_value]
    exact negative.ne
  rw [deltaArithmetic, if_neg notPositive, if_neg notZero]

/-- Settling a movement without rounding changes the balance by the movement, and takes from the
reserved part what it takes from the reservation. -/
theorem applyDelta_exact (exact : Exact (balance.deltaArithmetic reservation delta))
    (nonneg : balance.Nonnegative) (held : 0 ≤ heldBy reservation)
    (moved : balance.applyDelta reservation delta now = .ok settled) :
    settled.balance.worth = balance.worth + delta.value ∧
      balance.reserved.value - settled.balance.reserved.value =
        heldBy reservation - heldBy settled.reservation := by
  obtain ⟨after, positive, credited, rfl⟩ | ⟨zero, rfl⟩ | ⟨negative, paid⟩ := applyDelta_cases moved
  · rw [deltaArithmetic, if_pos (isPositive_iff_value.mpr positive), exact_cons_iff] at exact
    obtain ⟨-, available, added, rfl⟩ := credit_ok.mp credited
    refine ⟨?_, by ring⟩
    simp only [worth, exact.1.add_value added]
    ring
  · simp [zero]
  · rw [deltaArithmetic_of_neg negative] at exact
    obtain ⟨available, reserved, left⟩ :=
      payOut_exact exact nonneg held (by rw [value_neg]; linarith) paid
    rw [worth, available, reserved, left, worth, value_neg]
    constructor <;> ring

end WalletBalance

end SpotSettlement
