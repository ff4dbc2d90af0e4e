import SpotSettlement.Power

namespace SpotSettlement

/-! # Scaled decimals

Prices, quantities and amounts are decimals: a sign, a mantissa of at most 96 bits and a scale of
at most 28, which stand for `± mantissa / 10 ^ scale`.  Two decimals of one value may differ in
scale (`1.0` and `1.00`), and zero has a sign; comparison looks at the value alone.
-/

def Decimal.mantissaBound : Nat := wordSize 96

def Decimal.maxScale : Nat := 28

/-- A decimal number as it is stored: its scale is part of it. -/
structure Decimal where
  negative : Bool
  mantissa : Nat
  scale : Nat
  mantissa_lt : mantissa < Decimal.mantissaBound
  scale_le : scale ≤ Decimal.maxScale
  deriving DecidableEq

namespace Decimal

def zero : Decimal := ⟨false, 0, 0, by decide, by decide⟩

instance : Inhabited Decimal := ⟨zero⟩

/-- The decimal with these parts, if they are in range. -/
def ofSignedParts? (negative : Bool) (mantissa scale : Nat) : Option Decimal :=
  if bound : mantissa < mantissaBound ∧ scale ≤ maxScale then
    some ⟨negative, mantissa, scale, bound.1, bound.2⟩
  else none

/-- The decimal with these parts, if they are in range.  Zero made this way has no sign. -/
def ofParts? (negative : Bool) (mantissa scale : Nat) : Option Decimal :=
  ofSignedParts? (negative && mantissa != 0) mantissa scale

/-- The mantissa with its sign. -/
def coefficient (d : Decimal) : Int := if d.negative then -d.mantissa else d.mantissa

/-- The values of two decimals as integers over a common power of ten. -/
def aligned (a b : Decimal) : Int × Int :=
  (a.coefficient * 10 ^ (b.scale - a.scale), b.coefficient * 10 ^ (a.scale - b.scale))

def order (a b : Decimal) : Ordering := compare (aligned a b).1 (aligned a b).2

/-- Whether two decimals have one value, whatever their scales. -/
instance : BEq Decimal := ⟨fun a b => (aligned a b).1 == (aligned a b).2⟩

instance : LT Decimal := ⟨fun a b => (aligned a b).1 < (aligned a b).2⟩

instance : LE Decimal := ⟨fun a b => (aligned a b).1 ≤ (aligned a b).2⟩

instance (a b : Decimal) : Decidable (a < b) :=
  inferInstanceAs (Decidable ((aligned a b).1 < (aligned a b).2))

instance (a b : Decimal) : Decidable (a ≤ b) :=
  inferInstanceAs (Decidable ((aligned a b).1 ≤ (aligned a b).2))

def isZero (d : Decimal) : Bool := d.mantissa == 0

def isPositive (d : Decimal) : Bool := !d.negative && d.mantissa != 0

def isNegative (d : Decimal) : Bool := d.negative && d.mantissa != 0

/-- The decimal with its sign flipped, that of zero too. -/
def neg (d : Decimal) : Decimal := { d with negative := !d.negative }

def abs (d : Decimal) : Decimal := { d with negative := false }

/-- The smaller of two values; of equal ones the first. -/
def min (a b : Decimal) : Decimal := if b < a then b else a

/-- The greater of two values; of equal ones the first. -/
def max (a b : Decimal) : Decimal := if a < b then b else a

/-- Drops trailing zeros of the fraction. -/
def stripZeros : Nat → Nat → Nat → Nat × Nat
  | 0, mantissa, scale => (mantissa, scale)
  | fuel + 1, mantissa, scale =>
    if scale ≠ 0 ∧ mantissa % 10 = 0 then stripZeros fuel (mantissa / 10) (scale - 1)
    else (mantissa, scale)

theorem stripZeros_le (fuel mantissa scale : Nat) :
    (stripZeros fuel mantissa scale).1 ≤ mantissa ∧
      (stripZeros fuel mantissa scale).2 ≤ scale := by
  induction fuel generalizing mantissa scale with
  | zero => exact ⟨Nat.le_refl _, Nat.le_refl _⟩
  | succ fuel ih =>
      unfold stripZeros
      split
      · have step := ih (mantissa / 10) (scale - 1)
        exact ⟨Nat.le_trans step.1 (Nat.div_le_self _ _), Nat.le_trans step.2 (Nat.sub_le _ _)⟩
      · exact ⟨Nat.le_refl _, Nat.le_refl _⟩

/-- The decimal of the same value with the least scale; zero loses its sign. -/
def normalize (d : Decimal) : Decimal :=
  if d.mantissa = 0 then zero
  else
    ⟨d.negative, (stripZeros d.scale d.mantissa d.scale).1,
      (stripZeros d.scale d.mantissa d.scale).2,
      Nat.lt_of_le_of_lt (stripZeros_le ..).1 d.mantissa_lt,
      Nat.le_trans (stripZeros_le ..).2 d.scale_le⟩

@[simp] theorem coefficient_neg (d : Decimal) : d.neg.coefficient = -d.coefficient := by
  unfold neg coefficient
  cases d.negative <;> simp

@[simp] theorem scale_neg (d : Decimal) : d.neg.scale = d.scale := rfl

theorem beq_iff {a b : Decimal} : (a == b) = true ↔ (aligned a b).1 = (aligned a b).2 := by
  change ((aligned a b).1 == (aligned a b).2) = true ↔ _
  exact beq_iff_eq

end Decimal

end SpotSettlement
