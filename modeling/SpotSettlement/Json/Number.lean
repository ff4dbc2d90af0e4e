import SpotSettlement.Json.Basic
import SpotSettlement.Binary64.Shortest

namespace SpotSettlement.Json

/-! # JSON numbers and doubles

A number is read as a double by scaling its leading digits, as many as fit 64 bits, with one power
of ten.  A double is written as the shortest decimal that stands for it.
-/

/-- Drops trailing digits until the number fits 64 bits; each dropped digit raises the exponent. -/
def leadingDigits : Nat → Nat → Int → Nat × Int
  | 0, coefficient, exponent => (coefficient, exponent)
  | fuel + 1, coefficient, exponent =>
    if coefficient < wordSize 64 then (coefficient, exponent)
    else leadingDigits fuel (coefficient / 10) (exponent + 1)

/-- Divides by `10 ^ 308` until the remaining exponent is within reach of one division. -/
def scaleDown : Nat → Float → Nat → Float
  | 0, value, _ => value
  | fuel + 1, value, places =>
    if places ≤ 308 then value / Float.ofScientific 1 false places
    else scaleDown fuel (value / Float.ofScientific 1 false 308) (places - 308)

/-- The double nearest in size to `coefficient * 10 ^ exponent`, none beyond the finite ones. -/
def scaled? (coefficient : Nat) (exponent : Int) : Option Float :=
  let (coefficient, exponent) := leadingDigits (Nat.log2 coefficient + 1) coefficient exponent
  let value := Float.ofNat coefficient
  if coefficient = 0 then some 0.0
  else if exponent < 0 then some (scaleDown 4 value (-exponent).toNat)
  else if 308 < exponent then none
  else
    let product := value * Float.ofScientific 1 false exponent.toNat
    if product.isFinite then some product else none

/-- The double that a number stands for. -/
def Number.toFloat? : Number → Option Float
  | .integer value =>
    if -wordSize 63 ≤ value ∧ value < wordSize 64 then some (Float.ofInt value)
    else (scaled? value.natAbs 0).map fun size => if value < 0 then -size else size
  | .scientific negative coefficient exponent =>
    (scaled? coefficient exponent).map fun size => if negative then -size else size

/-- The number that writes a finite double. -/
def Number.ofFloat (value : Float) : Number :=
  match Binary64.shortest? value .even with
  | some (negative, digits, exponent) => .scientific negative digits exponent
  | none => .integer 0

def ofFloat (value : Float) : Json := .number (.ofFloat value)

/-- A number of either kind as a double. -/
def float? : Json → Option Float
  | .number value => value.toFloat?
  | _ => none

mutual

/-- Whether every number in the value has a finite double. -/
def finite : Json → Bool
  | .number value => value.toFloat?.isSome
  | .array items => finiteItems items
  | .object members => finiteMembers members
  | _ => true

def finiteItems : List Json → Bool
  | [] => true
  | item :: rest => finite item && finiteItems rest

def finiteMembers : List (String × Json) → Bool
  | [] => true
  | (_, value) :: rest => finite value && finiteMembers rest

end

end SpotSettlement.Json
