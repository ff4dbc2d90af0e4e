import SpotSettlement.Proofs.Wallet.Movements

namespace SpotSettlement.WalletBalance

/-! # What a movement draws from a reservation

If nothing rounds, a movement draws at most what it takes out of the account, and succeeds if what it
does not draw is available.  One that is covered by the reservation and by the reserved part of the
balance is drawn in whole, and leaves what is available alone.
-/

open Decimal

variable {balance : WalletBalance} {reservation : Option WalletReservation} {needed delta : Decimal}
  {now : Instant} {settled : Settled}

/-- A movement draws at most what it takes out of the account. -/
theorem applyDelta_draws_le (exact : Exact (balance.deltaArithmetic reservation delta))
    (nonneg : balance.Nonnegative) (held : 0 ≤ heldBy reservation)
    (moved : balance.applyDelta reservation delta now = .ok settled) :
    heldBy reservation - heldBy settled.reservation ≤ Max.max 0 (-delta.value) := by
  obtain ⟨after, -, -, rfl⟩ | ⟨-, rfl⟩ | ⟨negative, paid⟩ := applyDelta_cases moved
  · simp
  · simp
  · rw [deltaArithmetic_of_neg negative] at exact
    obtain ⟨-, -, left⟩ := payOut_exact exact nonneg held (by rw [value_neg]; linarith) paid
    have within : balance.draw reservation delta.neg.value ≤ delta.neg.value := min_le_left _ _
    rw [value_neg] at within left
    exact le_max_of_le_right (by linarith)

/-- What the reservation does not cover is available, and the reservation is active if it is drawn
on. -/
def CanPay (balance : WalletBalance) (reservation : Option WalletReservation) (needed : ℚ) :
    Prop :=
  needed - balance.draw reservation needed ≤ balance.available.value ∧
    (balance.draw reservation needed = 0 ∨
      ∃ held, reservation = some held ∧ held.status = .active)

theorem reservable_eq_min (nonneg : balance.Nonnegative) :
    (balance.reservable reservation).value =
      Min.min (heldBy reservation) balance.reserved.value := by
  cases reservation with
  | none => rw [reservable, heldBy, value_zero, min_eq_left nonneg.2]
  | some held => exact value_min _ _

theorem reservable_le_reserved (nonneg : balance.Nonnegative) :
    (balance.reservable reservation).value ≤ balance.reserved.value :=
  (reservable_eq_min nonneg).trans_le (min_le_right _ _)

theorem draw_nonneg {needed : ℚ} (nonneg : balance.Nonnegative) (held : 0 ≤ heldBy reservation)
    (positive : 0 ≤ needed) : 0 ≤ balance.draw reservation needed :=
  le_min positive (reservable_nonneg nonneg held)

/-- Only what can be paid is paid out. -/
theorem payOut_canPay (exact : Exact (balance.payOutArithmetic reservation needed))
    (nonneg : balance.Nonnegative) (held : 0 ≤ heldBy reservation) (positive : 0 < needed.value)
    (paid : balance.payOut reservation needed now = .ok settled) :
    balance.CanPay reservation needed.value := by
  obtain ⟨rest, drawn, split, covered, -, drew, -⟩ := payOut_cases paid
  have takenValue : (needed.min (balance.reservable reservation)).value =
      balance.draw reservation needed.value := value_min _ _
  have remaining := (exact_cons_iff.mp exact).1.sub_value split
  refine ⟨by rw [← takenValue, ← remaining]; exact covered, ?_⟩
  obtain ⟨nothing, -, -⟩ | ⟨reservation, -, -, rfl, -, active, -⟩ := drawReserved_cases drew
  · left
    obtain nothing | rfl := nothing
    · rw [takenValue] at nothing
      exact le_antisymm nothing (draw_nonneg nonneg held positive.le)
    · simpa [draw, reservable] using positive.le
  · exact .inr ⟨reservation, rfl, active⟩

theorem drawReserved_available {drawn : WalletBalance} {left : Option WalletReservation}
    (drew : balance.drawReserved reservation needed now = .ok (drawn, left)) :
    drawn.available = balance.available := by
  obtain ⟨-, rfl, -⟩ | ⟨-, -, -, -, -, -, -, -, -, -, rfl⟩ := drawReserved_cases drew
  · rfl
  · rfl

theorem drawReserved_exists (exact : Exact (balance.drawArithmetic needed reservation))
    (active : needed.value ≤ 0 ∨ ∃ held, reservation = some held ∧ held.status = .active)
    (reserved : needed.value ≤ balance.reserved.value) (now : Instant) :
    ∃ drawn left, balance.drawReserved reservation needed now = .ok (drawn, left) := by
  cases reservation with
  | none => exact ⟨_, _, rfl⟩
  | some held =>
      by_cases draws : needed.isPositive
      · have positive := isPositive_iff_value.mp draws
        obtain nothing | ⟨_, ⟨⟩, active⟩ := active
        · exact absurd positive (not_lt.mpr nothing)
        simp only [drawArithmetic, draws, if_true, exact_cons_iff] at exact
        obtain ⟨⟨left, spent, -⟩, ⟨remaining, moved, -⟩, -⟩ := exact
        have consumed : held.consume needed now =
            .ok (_, { held with amount := left, updatedAt := now }) :=
          WalletReservation.consume_ok.mpr ⟨active, rfl, left, spent, rfl⟩
        have drew : balance.consumeReserved needed now =
            .ok { balance with reserved := remaining, updatedAt := now } :=
          consumeReserved_ok.mpr ⟨positive, reserved, remaining, moved, rfl⟩
        simp only [drawReserved, draws, if_true, bind_ok_iff, pure_ok_iff]
        exact ⟨_, _, _, consumed, _, drew, rfl⟩
      · exact ⟨_, _, by rw [drawReserved, if_neg draws]⟩

theorem debit_exists (exact : Exact [.sub balance.available needed]) (positive : 0 < needed.value)
    (covered : needed.value ≤ balance.available.value) (now : Instant) :
    ∃ after, balance.debit needed now = .ok after := by
  obtain ⟨⟨available, taken, -⟩, -⟩ := exact_cons_iff.mp exact
  exact ⟨_, debit_ok.mpr ⟨positive, covered, available, taken, rfl⟩⟩

theorem reserve_exists (exact : Exact (balance.reserveArithmetic needed))
    (positive : 0 < needed.value) (covered : needed.value ≤ balance.available.value)
    (now : Instant) : ∃ after, balance.reserve needed now = .ok after := by
  rw [reserveArithmetic, if_pos ⟨isPositive_iff_value.mpr positive, not_lt_iff_value.mpr covered⟩,
    exact_cons_iff, exact_cons_iff] at exact
  obtain ⟨⟨available, taken, -⟩, ⟨reserved, added, -⟩, -⟩ := exact
  exact ⟨_, reserve_ok.mpr ⟨positive, covered, available, taken, reserved, added, rfl⟩⟩

/-- What can be paid is paid out. -/
theorem payOut_exists (exact : Exact (balance.payOutArithmetic reservation needed))
    (nonneg : balance.Nonnegative) (payable : balance.CanPay reservation needed.value)
    (now : Instant) : ∃ settled, balance.payOut reservation needed now = .ok settled := by
  have takenValue : (needed.min (balance.reservable reservation)).value =
      balance.draw reservation needed.value := value_min _ _
  have within : balance.draw reservation needed.value ≤ balance.reserved.value :=
    (min_le_right _ _).trans (reservable_le_reserved nonneg)
  unfold payOut
  unfold payOutArithmetic at exact
  generalize needed.min (balance.reservable reservation) = taken at exact takenValue
  rw [← takenValue] at within
  obtain ⟨⟨rest, split, restValue⟩, exact⟩ := exact_cons_iff.mp exact
  change needed.sub taken = .ok rest at split
  change rest.value = needed.value - taken.value at restValue
  have enough : ¬balance.available < rest := by
    rw [not_lt_iff_value, restValue, takenValue]
    exact payable.1
  simp only [split, enough, if_false, exact_append_iff] at exact
  obtain ⟨drawn, left, drew⟩ := drawReserved_exists exact.1
    (payable.2.imp_left fun none => by rw [takenValue, none]) within now
  simp only [bind_ok_iff, lift_ok_iff]
  by_cases positive : rest.isPositive
  · have same := drawReserved_available drew
    rw [if_pos positive, ← same] at exact
    obtain ⟨after, debited⟩ := debit_exists exact.2 (isPositive_iff_value.mp positive)
      (by rw [same]; exact not_lt_iff_value.mp enough) now
    refine ⟨⟨⟨taken, rest⟩, after, left⟩, rest, split, ?_⟩
    rw [if_neg enough]
    exact bind_ok_iff.mpr ⟨_, drew, by rw [if_pos positive]; exact bind_ok_iff.mpr ⟨_, debited, rfl⟩⟩
  · refine ⟨⟨⟨taken, rest⟩, drawn, left⟩, rest, split, ?_⟩
    rw [if_neg enough]
    exact bind_ok_iff.mpr ⟨_, drew, by rw [if_neg positive]; rfl⟩

/-- The movement takes nothing out of the account, or it can be paid. -/
def CanSettle (balance : WalletBalance) (reservation : Option WalletReservation) (delta : ℚ) :
    Prop :=
  0 ≤ delta ∨ balance.CanPay reservation (-delta)

theorem applyDelta_canSettle (exact : Exact (balance.deltaArithmetic reservation delta))
    (nonneg : balance.Nonnegative) (held : 0 ≤ heldBy reservation)
    (moved : balance.applyDelta reservation delta now = .ok settled) :
    balance.CanSettle reservation delta.value := by
  obtain ⟨-, positive, -, -⟩ | ⟨zero, -⟩ | ⟨negative, paid⟩ := applyDelta_cases moved
  · exact .inl positive.le
  · exact .inl zero.ge
  · rw [deltaArithmetic_of_neg negative] at exact
    right
    rw [← value_neg]
    exact payOut_canPay exact nonneg held (by rw [value_neg]; linarith) paid

theorem applyDelta_exists (exact : Exact (balance.deltaArithmetic reservation delta))
    (nonneg : balance.Nonnegative) (settles : balance.CanSettle reservation delta.value)
    (now : Instant) : ∃ settled, balance.applyDelta reservation delta now = .ok settled := by
  unfold applyDelta
  split
  · next positive =>
      rw [deltaArithmetic, if_pos positive, exact_cons_iff] at exact
      obtain ⟨⟨available, added, -⟩, -⟩ := exact
      have credited : balance.credit delta now =
          .ok { balance with available, updatedAt := now } :=
        credit_ok.mpr ⟨isPositive_iff_value.mp positive, available, added, rfl⟩
      exact ⟨_, bind_ok_iff.mpr ⟨_, credited, rfl⟩⟩
  · next notPositive =>
      split
      · exact ⟨_, rfl⟩
      · next notZero =>
          rw [isPositive_iff_value, not_lt] at notPositive
          rw [isZero_iff_value] at notZero
          have negative := lt_of_le_of_ne notPositive notZero
          rw [deltaArithmetic_of_neg negative] at exact
          have payable := settles.resolve_left (not_le.mpr negative)
          rw [← value_neg] at payable
          exact payOut_exists exact nonneg payable now

/-- The reservation, and the reserved part of the balance, cover what a movement takes out. -/
def CoversDelta (balance : WalletBalance) (reservation : Option WalletReservation)
    (delta : Decimal) : Prop :=
  delta.value < 0 → ∃ held, reservation = some held ∧ held.status = .active ∧
    -delta.value ≤ held.amount.value ∧ -delta.value ≤ balance.reserved.value

theorem CoversDelta.draw_eq (covers : balance.CoversDelta reservation delta)
    (negative : delta.value < 0) : balance.draw reservation (-delta.value) = -delta.value := by
  obtain ⟨held, rfl, -, within, reserved⟩ := covers negative
  rw [draw, reservable, value_min]
  exact min_eq_left (le_min within reserved)

theorem CoversDelta.canSettle (covers : balance.CoversDelta reservation delta)
    (nonneg : balance.Nonnegative) : balance.CanSettle reservation delta.value := by
  obtain negative | nonneg' := lt_or_ge delta.value 0
  · obtain ⟨held, given, active, -⟩ := covers negative
    refine .inr ⟨?_, .inr ⟨held, given, active⟩⟩
    rw [covers.draw_eq negative, sub_self]
    exact nonneg.1
  · exact .inl nonneg'

/-- A covered movement is drawn from the reservation in whole, and leaves what is available alone
unless it comes in. -/
theorem applyDelta_covered (exact : Exact (balance.deltaArithmetic reservation delta))
    (nonneg : balance.Nonnegative) (held : 0 ≤ heldBy reservation)
    (covers : balance.CoversDelta reservation delta)
    (moved : balance.applyDelta reservation delta now = .ok settled) :
    settled.balance.available.value = balance.available.value + Max.max 0 delta.value ∧
      heldBy settled.reservation = heldBy reservation - Max.max 0 (-delta.value) := by
  obtain ⟨after, positive, credited, rfl⟩ | ⟨zero, rfl⟩ | ⟨negative, paid⟩ := applyDelta_cases moved
  · rw [deltaArithmetic, if_pos (isPositive_iff_value.mpr positive), exact_cons_iff] at exact
    obtain ⟨-, available, added, rfl⟩ := credit_ok.mp credited
    rw [max_eq_right positive.le, max_eq_left (by linarith), sub_zero]
    exact ⟨exact.1.add_value added, rfl⟩
  · simp [zero]
  · rw [deltaArithmetic_of_neg negative] at exact
    obtain ⟨available, -, left⟩ :=
      payOut_exact exact nonneg held (by rw [value_neg]; linarith) paid
    rw [value_neg, covers.draw_eq negative] at available left
    rw [max_eq_left negative.le, max_eq_right (by linarith), available, left]
    constructor <;> ring

end SpotSettlement.WalletBalance
