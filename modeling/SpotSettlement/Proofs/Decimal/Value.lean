import Mathlib.Algebra.Order.Field.Rat
import Mathlib.Tactic.FieldSimp
import Mathlib.Tactic.Linarith
import Mathlib.Tactic.Positivity
import Mathlib.Tactic.Ring
import SpotSettlement.Decimal.Arithmetic

namespace SpotSettlement.Decimal

/-! # The number that a decimal stands for

A decimal is a way of writing a rational number.  Tests and comparisons of decimals are those of the
numbers; negation and the choice of the smaller or greater one carry over.  Sums and differences may
be rounded, but rounding never crosses zero.
-/

variable {a b d : Decimal}

/-- The number that a decimal stands for. -/
def value (d : Decimal) : ℚ := d.coefficient / (10 : ℚ) ^ d.scale

theorem aligned_fst (a b : Decimal) :
    ((aligned a b).1 : ℚ) = a.value * (10 : ℚ) ^ (a.scale + (b.scale - a.scale)) := by
  simp only [aligned, value, pow_add]
  push_cast
  field_simp

theorem aligned_snd (a b : Decimal) :
    ((aligned a b).2 : ℚ) = b.value * (10 : ℚ) ^ (a.scale + (b.scale - a.scale)) := by
  have common : a.scale + (b.scale - a.scale) = b.scale + (a.scale - b.scale) := by omega
  rw [common]
  simp only [aligned, value, pow_add]
  push_cast
  field_simp

theorem lt_iff_value : a < b ↔ a.value < b.value := by
  change (aligned a b).1 < (aligned a b).2 ↔ _
  rw [← Int.cast_lt (R := ℚ), aligned_fst, aligned_snd]
  exact mul_lt_mul_iff_left₀ (by positivity)

theorem not_lt_iff_value : ¬a < b ↔ b.value ≤ a.value := by
  rw [lt_iff_value, not_lt]

theorem beq_iff_value : (a == b) = true ↔ a.value = b.value := by
  rw [beq_iff, ← Int.cast_inj (α := ℚ), aligned_fst, aligned_snd]
  exact mul_left_inj' (by positivity)

theorem value_eq_zero_iff : d.value = 0 ↔ d.mantissa = 0 := by
  unfold value coefficient
  cases d.negative <;> simp

theorem value_nonneg_iff : 0 ≤ d.value ↔ d.negative = false ∨ d.mantissa = 0 := by
  have power : (0 : ℚ) < 10 ^ d.scale := by positivity
  unfold value coefficient
  rw [le_div_iff₀ power, zero_mul]
  cases d.negative <;> simp

theorem isZero_iff_value : d.isZero = true ↔ d.value = 0 := by
  rw [value_eq_zero_iff]
  simp [isZero]

theorem isNegative_iff_value : d.isNegative = true ↔ d.value < 0 := by
  rw [← not_le, value_nonneg_iff]
  simp [isNegative]

theorem isPositive_iff_value : d.isPositive = true ↔ 0 < d.value := by
  rw [lt_iff_le_and_ne, value_nonneg_iff, ne_comm, Ne, value_eq_zero_iff]
  simp only [isPositive, Bool.and_eq_true, Bool.not_eq_true', bne_iff_ne]
  grind

@[simp] theorem value_zero : zero.value = 0 := by simp [value, coefficient, zero]

@[simp] theorem value_neg (d : Decimal) : d.neg.value = -d.value := by
  simp [value, neg_div]

theorem value_abs (d : Decimal) : d.abs.value = |d.value| := by
  have power : (0 : ℚ) < 10 ^ d.scale := by positivity
  unfold value
  rw [abs_div, abs_of_pos power]
  cases sign : d.negative <;> simp [coefficient, abs, sign]

theorem stripZeros_value (fuel mantissa scale : Nat) :
    ((stripZeros fuel mantissa scale).1 : ℚ) / 10 ^ (stripZeros fuel mantissa scale).2 =
      mantissa / 10 ^ scale := by
  induction fuel generalizing mantissa scale with
  | zero => rfl
  | succ fuel ih =>
      unfold stripZeros
      split
      · next zeros =>
          obtain ⟨places, rfl⟩ := Nat.exists_eq_succ_of_ne_zero zeros.1
          obtain ⟨digits, rfl⟩ := Nat.dvd_of_mod_eq_zero zeros.2
          rw [ih, Nat.mul_div_cancel_left _ (by decide), Nat.succ_sub_one, Nat.cast_mul,
            Nat.succ_eq_add_one, pow_succ]
          push_cast
          field_simp
      · rfl

@[simp] theorem value_normalize (d : Decimal) : d.normalize.value = d.value := by
  unfold normalize
  split
  · next zero => rw [value_zero, value_eq_zero_iff.mpr zero]
  · have same := stripZeros_value d.scale d.mantissa d.scale
    unfold value coefficient
    cases d.negative
    · simpa using same
    · simpa [neg_div] using same

@[simp] theorem value_min (a b : Decimal) : (a.min b).value = Min.min a.value b.value := by
  unfold min
  split
  case isTrue less => rw [min_eq_right (lt_iff_value.mp less).le]
  case isFalse least => rw [min_eq_left (not_lt_iff_value.mp least)]

@[simp] theorem value_max (a b : Decimal) : (a.max b).value = Max.max a.value b.value := by
  unfold max
  split
  case isTrue less => rw [max_eq_right (lt_iff_value.mp less).le]
  case isFalse greatest => rw [max_eq_left (not_lt_iff_value.mp greatest)]

theorem ofSignedParts?_negative {negative : Bool} {mantissa scale : Nat}
    (fits : ofSignedParts? negative mantissa scale = some d) : d.negative = negative := by
  unfold ofSignedParts? at fits
  split at fits
  · cases fits; rfl
  · contradiction

theorem dropUntilFits_negative {negative : Bool} {mantissa scale fuel places : Nat}
    (fits : dropUntilFits negative mantissa scale fuel places = some d) :
    d.negative = negative := by
  induction fuel generalizing places with
  | zero => exact ofSignedParts?_negative fits
  | succ fuel ih =>
      unfold dropUntilFits at fits
      split at fits
      · next found => cases fits; exact ofSignedParts?_negative found
      · exact ih fits

theorem ofCoefficient?_nonneg {coefficient : Int} {scale : Nat} (nonneg : 0 ≤ coefficient)
    (fits : ofCoefficient? coefficient scale = some d) : 0 ≤ d.value := by
  have sign : d.negative = decide (coefficient < 0) := dropUntilFits_negative fits
  rw [value_nonneg_iff]
  exact .inl (sign.trans (decide_eq_false (by omega)))

theorem add_nonneg {sum : Decimal} (left : 0 ≤ a.value) (right : 0 ≤ b.value)
    (added : a.add b = .ok sum) : 0 ≤ sum.value := by
  have total : 0 ≤ (aligned a b).1 + (aligned a b).2 := by
    rw [← Int.cast_nonneg_iff (R := ℚ), Int.cast_add, aligned_fst, aligned_snd]
    positivity
  unfold add at added
  split at added
  · cases added; exact right
  · split at added
    · cases added; exact left
    · split at added
      · next fits => cases added; exact ofCoefficient?_nonneg total fits
      · contradiction

theorem sub_nonneg_of_le {difference : Decimal} (covered : b.value ≤ a.value) (right : 0 ≤ b.value)
    (taken : a.sub b = .ok difference) : 0 ≤ difference.value := by
  have rest : 0 ≤ (aligned a b).1 - (aligned a b).2 := by
    rw [← Int.cast_nonneg_iff (R := ℚ), Int.cast_sub, aligned_fst, aligned_snd, ← sub_mul]
    exact mul_nonneg (sub_nonneg.mpr covered) (by positivity)
  unfold sub at taken
  split at taken
  · next empty =>
      -- Nothing can be taken from zero but zero.
      have none : b.mantissa = 0 :=
        value_eq_zero_iff.mp (le_antisymm (covered.trans_eq (value_eq_zero_iff.mpr empty)) right)
      rw [if_pos none] at taken
      cases taken
      exact right
  · split at taken
    · cases taken; exact right.trans covered
    · split at taken
      · next fits => cases taken; exact ofCoefficient?_nonneg rest fits
      · contradiction

/-- One arithmetic operation on two decimals. -/
inductive Operation where
  | add (a b : Decimal)
  | sub (a b : Decimal)
  | mul (a b : Decimal)
  deriving DecidableEq

namespace Operation

def result : Operation → Except Overflow Decimal
  | add a b => a.add b
  | sub a b => a.sub b
  | mul a b => a.mul b

/-- What the operation would give if numbers had any number of digits. -/
def ideal : Operation → ℚ
  | add a b => a.value + b.value
  | sub a b => a.value - b.value
  | mul a b => a.value * b.value

/-- The operation neither rounds nor overflows. -/
def Exact (operation : Operation) : Prop :=
  ∃ d, operation.result = .ok d ∧ d.value = operation.ideal

instance (operation : Operation) : Decidable operation.Exact :=
  match given : operation.result with
  | .ok d => decidable_of_iff (d.value = operation.ideal) (by simp [Exact, given])
  | .error overflow => .isFalse (by simp [Exact, given])

def isAddition : Operation → Bool
  | add .. => true
  | sub .. | mul .. => false

theorem Exact.add_value (exact : (add a b).Exact) (added : a.add b = .ok d) :
    d.value = a.value + b.value := by
  obtain ⟨sum, given, value⟩ := exact
  cases added.symm.trans given
  exact value

theorem Exact.sub_value (exact : (sub a b).Exact) (taken : a.sub b = .ok d) :
    d.value = a.value - b.value := by
  obtain ⟨difference, given, value⟩ := exact
  cases taken.symm.trans given
  exact value

end Operation

/-- None of the operations rounds or overflows. -/
def Exact (operations : List Operation) : Prop := ∀ operation ∈ operations, operation.Exact

instance (operations : List Operation) : Decidable (Exact operations) :=
  inferInstanceAs (Decidable (∀ operation ∈ operations, operation.Exact))

variable {first : Operation} {left right rest : List Operation}

theorem exact_cons_iff : Exact (first :: rest) ↔ first.Exact ∧ Exact rest :=
  List.forall_mem_cons

theorem exact_append_iff : Exact (left ++ right) ↔ Exact left ∧ Exact right :=
  List.forall_mem_append

end SpotSettlement.Decimal

namespace SpotSettlement.Sample

/-- A whole number of units, as far as it fits. -/
def units (n : Nat) : Decimal :=
  if bound : n < Decimal.mantissaBound then ⟨false, n, 0, bound, Decimal.zero.scale_le⟩ else .zero

end SpotSettlement.Sample
