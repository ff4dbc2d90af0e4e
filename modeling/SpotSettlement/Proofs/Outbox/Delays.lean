import Mathlib.Algebra.Ring.Nat
import SpotSettlement.Outbox.Schedule

namespace SpotSettlement

/-! # Delays

The delay after a failure never shrinks from one failure to the next, and keeps to the cap.  It
doubles with every failure up to the thirty-second; after that the cap must have been reached for it
to be the doubled delay still.
-/

namespace Duration

theorem min_nanoseconds (a b : Duration) :
    (a.min b).nanoseconds = Min.min a.nanoseconds b.nanoseconds := by
  unfold Duration.min
  split
  · next less => exact (Nat.min_eq_left less).symm
  · next more => exact (Nat.min_eq_right (Nat.le_of_not_le more)).symm

theorem eq_iff {a b : Duration} : a = b ↔ a.nanoseconds = b.nanoseconds := by
  cases a
  cases b
  exact Duration.mk.injEq _ _ ▸ Iff.rfl

end Duration

namespace RetrySchedule

variable {schedule : RetrySchedule} {earlier later failures : Nat}

/-- The delay that doubles with every failure, up to the cap. -/
def doubled (schedule : RetrySchedule) (failures : Nat) : Duration :=
  Duration.min ⟨schedule.baseBackoff.nanoseconds * 2 ^ (failures - 1)⟩ schedule.maxBackoff

theorem backoff_mono (schedule : RetrySchedule) (order : earlier ≤ later) :
    schedule.backoff earlier ≤ schedule.backoff later := by
  change (schedule.backoff earlier).nanoseconds ≤ (schedule.backoff later).nanoseconds
  have exponents : min (earlier - 1) 31 ≤ min (later - 1) 31 := by omega
  have powers := Nat.pow_le_pow_right (Nat.zero_lt_two) exponents
  have grown := Nat.mul_le_mul_left schedule.baseBackoff.nanoseconds powers
  rw [backoff, backoff, Duration.min_nanoseconds, Duration.min_nanoseconds]
  dsimp only
  omega

/-- The delay is the doubled one up to the thirty-second failure, and beyond it if there is nothing
to double or the cap has been reached. -/
theorem backoff_eq_doubled_iff (schedule : RetrySchedule) (failures : Nat) :
    schedule.backoff failures = schedule.doubled failures ↔
      failures ≤ 32 ∨ schedule.baseBackoff.nanoseconds = 0 ∨
        schedule.maxBackoff.nanoseconds ≤ schedule.baseBackoff.nanoseconds * 2 ^ 31 := by
  rw [Duration.eq_iff, backoff, doubled, Duration.min_nanoseconds, Duration.min_nanoseconds]
  obtain many | few := Nat.lt_or_ge 32 failures
  · -- From here on the exponent stays, while that of the doubled delay is larger.
    have stays : min (failures - 1) 31 = 31 := by omega
    obtain ⟨more, exponent⟩ := Nat.exists_eq_add_of_le (show 32 ≤ failures - 1 by omega)
    have further : schedule.baseBackoff.nanoseconds * 2 ^ (failures - 1) =
        schedule.baseBackoff.nanoseconds * 2 ^ 31 * (2 * 2 ^ more) := by
      rw [exponent, Nat.mul_assoc]
      congr 1
      rw [Nat.pow_add]
      omega
    have positive : 0 < 2 ^ more := Nat.two_pow_pos more
    rw [stays, further]
    generalize schedule.maxBackoff.nanoseconds = cap
    generalize schedule.baseBackoff.nanoseconds = base
    dsimp only
    obtain rfl | some := Nat.eq_zero_or_pos base
    · simp
    · have grown : 0 < base * 2 ^ 31 := Nat.mul_pos some (by decide)
      have larger : base * 2 ^ 31 < base * 2 ^ 31 * (2 * 2 ^ more) :=
        (Nat.lt_mul_iff_one_lt_right grown).mpr (by omega)
      generalize base * 2 ^ 31 * (2 * 2 ^ more) = further at larger ⊢
      generalize base * 2 ^ 31 = stopped at larger ⊢
      omega
  · have same : min (failures - 1) 31 = failures - 1 := by omega
    rw [same]
    exact iff_of_true rfl (.inl few)

end RetrySchedule

end SpotSettlement
