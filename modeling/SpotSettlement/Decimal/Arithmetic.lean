import SpotSettlement.Decimal.Basic

namespace SpotSettlement.Decimal

/-! # Exact arithmetic with bounded digits

A sum, difference or product is exact as long as it fits: 96 bits of mantissa and 28 places.  A
result with more loses as few trailing digits of its fraction as possible, rounded once, a tie to
the even neighbour.  A result whose integer part does not fit is an overflow.
-/

/-- The operation whose result does not fit. -/
inductive Overflow where
  | addition
  | subtraction
  | multiplication
  deriving DecidableEq, Repr

def Overflow.message : Overflow → String
  | .addition => "Addition overflowed"
  | .subtraction => "Subtraction overflowed"
  | .multiplication => "Multiplication overflowed"

/-- The quotient by `10 ^ places`, rounded to nearest, a tie to the even neighbour. -/
def roundTieToEven (mantissa places : Nat) : Nat :=
  let quotient := mantissa / 10 ^ places
  let twice := 2 * (mantissa % 10 ^ places)
  if twice > 10 ^ places ∨ (twice = 10 ^ places ∧ quotient % 2 = 1) then quotient + 1
  else quotient

/-- Drops `places` digits, and further ones while the mantissa does not fit. -/
def dropUntilFits (negative : Bool) (mantissa scale : Nat) : Nat → Nat → Option Decimal
  | 0, places => ofSignedParts? negative (roundTieToEven mantissa places) (scale - places)
  | fuel + 1, places =>
    match ofSignedParts? negative (roundTieToEven mantissa places) (scale - places) with
    | some fitting => some fitting
    | none => dropUntilFits negative mantissa scale fuel (places + 1)

/-- The decimal nearest to `± mantissa / 10 ^ scale`, if its integer part fits. -/
def fit? (negative : Bool) (mantissa scale : Nat) : Option Decimal :=
  dropUntilFits negative mantissa scale (scale - (scale - maxScale)) (scale - maxScale)

/-- The decimal nearest to `coefficient / 10 ^ scale`; zero has no sign. -/
def ofCoefficient? (coefficient : Int) (scale : Nat) : Option Decimal :=
  fit? (decide (coefficient < 0)) coefficient.natAbs scale

/-- The sum; with a zero operand it is the other one, scale included. -/
def add (a b : Decimal) : Except Overflow Decimal :=
  if a.mantissa = 0 then .ok b
  else if b.mantissa = 0 then .ok a
  else
    match ofCoefficient? ((aligned a b).1 + (aligned a b).2) (Max.max a.scale b.scale) with
    | some sum => .ok sum
    | none => .error .addition

/-- The difference; with a zero operand it is the other one, negated on the right. -/
def sub (a b : Decimal) : Except Overflow Decimal :=
  if a.mantissa = 0 then .ok (if b.mantissa = 0 then b else b.neg)
  else if b.mantissa = 0 then .ok a
  else
    match ofCoefficient? ((aligned a b).1 - (aligned a b).2) (Max.max a.scale b.scale) with
    | some difference => .ok difference
    | none => .error .subtraction

/-- Whether the mantissa has at most 32 bits. -/
def isShort (d : Decimal) : Bool := d.mantissa < wordSize 32

/-- The product.  A factor zero gives plain zero, and so does the product of two short factors when
it would have more than 47 places.  A product that rounds to zero keeps its sign unless both
factors are short. -/
def mul (a b : Decimal) : Except Overflow Decimal :=
  if a.mantissa = 0 ∨ b.mantissa = 0 then .ok zero
  else if a.isShort ∧ b.isShort ∧ 47 < a.scale + b.scale then .ok zero
  else
    match fit? (a.negative != b.negative) (a.mantissa * b.mantissa) (a.scale + b.scale) with
    | some product =>
      .ok (if a.isShort ∧ b.isShort ∧ product.mantissa = 0 then product.abs else product)
    | none => .error .multiplication

end SpotSettlement.Decimal
