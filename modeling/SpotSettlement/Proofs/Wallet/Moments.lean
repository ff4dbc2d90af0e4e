import SpotSettlement.Proofs.Wallet.Movements

namespace SpotSettlement

/-! # Movements at different moments

A movement writes the moment at which it is made, and does not ask for it otherwise.  What succeeds
at one moment succeeds at every other, and leaves the same apart from moments.
-/

open Decimal

namespace WalletBalance

def undated (balance : WalletBalance) : WalletBalance := { balance with updatedAt := default }

variable {balance twin : WalletBalance} {now later : Instant} {amount : Decimal}

theorem eq_of_undated (same : balance.undated = twin.undated) :
    ∃ moment, twin = { balance with updatedAt := moment } := by
  cases balance
  cases twin
  simp only [undated, mk.injEq, and_true] at same
  obtain ⟨rfl, rfl, rfl, rfl⟩ := same
  exact ⟨_, rfl⟩

theorem credit_mirrors (same : balance.undated = twin.undated) :
    Mirrors (·.undated = ·.undated) (balance.credit amount now) (twin.credit amount later) := by
  obtain ⟨moment, rfl⟩ := eq_of_undated same
  intro after credited
  obtain ⟨positive, available, added, rfl⟩ := credit_ok.mp credited
  exact ⟨_, credit_ok.mpr ⟨positive, available, added, rfl⟩, rfl⟩

theorem debit_mirrors (same : balance.undated = twin.undated) :
    Mirrors (·.undated = ·.undated) (balance.debit amount now) (twin.debit amount later) := by
  obtain ⟨moment, rfl⟩ := eq_of_undated same
  intro after debited
  obtain ⟨positive, covered, available, taken, rfl⟩ := debit_ok.mp debited
  exact ⟨_, debit_ok.mpr ⟨positive, covered, available, taken, rfl⟩, rfl⟩

theorem release_mirrors (same : balance.undated = twin.undated) :
    Mirrors (·.undated = ·.undated) (balance.release amount now) (twin.release amount later) := by
  obtain ⟨moment, rfl⟩ := eq_of_undated same
  intro after released
  obtain ⟨positive, covered, reserved, taken, available, added, rfl⟩ := release_ok.mp released
  exact ⟨_, release_ok.mpr ⟨positive, covered, reserved, taken, available, added, rfl⟩, rfl⟩

theorem consumeReserved_mirrors (same : balance.undated = twin.undated) :
    Mirrors (·.undated = ·.undated) (balance.consumeReserved amount now)
      (twin.consumeReserved amount later) := by
  obtain ⟨moment, rfl⟩ := eq_of_undated same
  intro after consumed
  obtain ⟨positive, covered, reserved, taken, rfl⟩ := consumeReserved_ok.mp consumed
  exact ⟨_, consumeReserved_ok.mpr ⟨positive, covered, reserved, taken, rfl⟩, rfl⟩

end WalletBalance

namespace WalletReservation

def undated (reservation : WalletReservation) : WalletReservation :=
  { reservation with createdAt := default, updatedAt := default }

variable {held twin : WalletReservation} {now later : Instant} {amount : Decimal}

theorem eq_of_undated (same : held.undated = twin.undated) :
    ∃ created updated, twin = { held with createdAt := created, updatedAt := updated } := by
  cases held
  cases twin
  simp only [undated, mk.injEq, and_true] at same
  obtain ⟨rfl, rfl, rfl, rfl, rfl, rfl⟩ := same
  exact ⟨_, _, rfl⟩

theorem consume_mirrors (same : held.undated = twin.undated) :
    Mirrors (fun drawn image => drawn.1 = image.1 ∧ drawn.2.undated = image.2.undated)
      (held.consume amount now) (twin.consume amount later) := by
  obtain ⟨created, updated, rfl⟩ := eq_of_undated same
  rintro ⟨taken, drawn⟩ consumed
  obtain ⟨active, spent, rest, left, rfl⟩ := consume_ok.mp consumed
  exact ⟨(taken, _), consume_ok.mpr ⟨active, spent, rest, left, rfl⟩, rfl, rfl⟩

theorem close_mirrors (status : ReservationStatus) (now later : Instant)
    (same : held.undated = twin.undated) :
    Mirrors (fun closed image => closed.1 = image.1 ∧ closed.2.undated = image.2.undated)
      (held.close status now) (twin.close status later) := by
  obtain ⟨created, updated, rfl⟩ := eq_of_undated same
  rintro ⟨left, closed⟩ closing
  obtain ⟨active, amount, rfl⟩ := close_ok.mp closing
  exact ⟨(left, _), close_ok.mpr ⟨active, amount, rfl⟩, rfl, rfl⟩

end WalletReservation

def Settled.undated (settled : Settled) : Settled where
  split := settled.split
  balance := settled.balance.undated
  reservation := settled.reservation.map (·.undated)

namespace WalletBalance

variable {balance twin : WalletBalance} {reservation twinReservation : Option WalletReservation}
  {now later : Instant} {amount needed delta : Decimal}

theorem reservable_undated (same : balance.undated = twin.undated)
    (sameHeld : reservation.map (·.undated) = twinReservation.map (·.undated)) :
    balance.reservable reservation = twin.reservable twinReservation := by
  obtain ⟨moment, rfl⟩ := eq_of_undated same
  cases reservation <;> cases twinReservation <;> simp at sameHeld
  · rfl
  · obtain ⟨created, updated, rfl⟩ := WalletReservation.eq_of_undated sameHeld
    rfl

theorem drawReserved_mirrors (same : balance.undated = twin.undated)
    (sameHeld : reservation.map (·.undated) = twinReservation.map (·.undated)) :
    Mirrors (fun drawn image => drawn.1.undated = image.1.undated ∧
        drawn.2.map (·.undated) = image.2.map (·.undated))
      (balance.drawReserved reservation amount now)
      (twin.drawReserved twinReservation amount later) := by
  cases reservation <;> cases twinReservation <;> simp at sameHeld
  case none.none => exact .pure ⟨same, rfl⟩
  case some.some held image =>
    simp only [drawReserved]
    split
    · refine (WalletReservation.consume_mirrors sameHeld).bind ?_
      rintro ⟨taken, held⟩ ⟨_, image⟩ ⟨rfl, sameLeft⟩
      refine (consumeReserved_mirrors same).bind fun drawn imageDrawn sameDrawn => ?_
      exact .pure ⟨sameDrawn, congrArg some sameLeft⟩
    · exact .pure ⟨same, congrArg some sameHeld⟩

theorem payOut_mirrors (same : balance.undated = twin.undated)
    (sameHeld : reservation.map (·.undated) = twinReservation.map (·.undated)) :
    Mirrors (·.undated = ·.undated) (balance.payOut reservation needed now)
      (twin.payOut twinReservation needed later) := by
  have available : balance.available = twin.available := congrArg (·.available) same
  simp only [payOut, reservable_undated same sameHeld, available]
  refine .bind (.lift (.refl _)) ?_
  rintro rest _ rfl
  split
  · exact .bind (.lift (.refl _)) fun _ _ _ => .refused_bind _ _ _
  · refine (drawReserved_mirrors same sameHeld).bind ?_
    rintro ⟨drawn, left⟩ ⟨imageDrawn, imageLeft⟩ ⟨sameDrawn, sameLeft⟩
    split
    · refine (debit_mirrors sameDrawn).bind fun after image sameAfter => .pure ?_
      simp only [Settled.undated, sameAfter, sameLeft]
    · simp only [pure_bind]
      refine .pure ?_
      simp only [Settled.undated, sameDrawn, sameLeft]

theorem applyDelta_mirrors (same : balance.undated = twin.undated)
    (sameHeld : reservation.map (·.undated) = twinReservation.map (·.undated)) :
    Mirrors (·.undated = ·.undated) (balance.applyDelta reservation delta now)
      (twin.applyDelta twinReservation delta later) := by
  unfold applyDelta
  split
  · refine (credit_mirrors same).bind fun after image sameAfter => .pure ?_
    simp only [Settled.undated, sameAfter, sameHeld]
  · split
    · refine .pure ?_
      simp only [Settled.undated, same, sameHeld]
    · exact payOut_mirrors same sameHeld

end WalletBalance

end SpotSettlement
