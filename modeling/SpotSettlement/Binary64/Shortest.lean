import SpotSettlement.Power

namespace SpotSettlement.Binary64

/-! # The shortest decimal of a double

A double stands for every real that rounds to it.  Its shortest decimal is, among the decimals in
that interval with the fewest digits, the one nearest to the double itself.  All comparisons are
made on natural numbers.
-/

/-- A finite double as `± significand * 2 ^ exponent`. -/
structure Parts where
  negative : Bool
  significand : Nat
  exponent : Int
  deriving DecidableEq, Repr

/-- How many fractions a double can have: 52 bits of it are a fraction. -/
def fractionCount : Nat := wordSize 52

/-- The parts of a double; infinities and NaN have none. -/
def Parts.ofBits? (bits : UInt64) : Option Parts :=
  let field : Nat := bits.toNat / fractionCount % wordSize 11
  let fraction := bits.toNat % fractionCount
  let negative := bits.toNat / wordSize 63 == 1
  if field = 2047 then none
  else if field = 0 then some ⟨negative, fraction, -1074⟩
  else some ⟨negative, fraction + fractionCount, (field : Int) - 1075⟩

/-- Compares `a * 2 ^ p` with `b * 10 ^ e`. -/
def compareScaled (a : Nat) (p : Int) (b : Nat) (e : Int) : Ordering :=
  let left := a * 2 ^ p.toNat * 10 ^ (-e).toNat
  let right := b * 10 ^ e.toNat * 2 ^ (-p).toNat
  compare left right

/-- The reals that round to `4 * significand * 2 ^ exponent`, given in quarters of a unit in the
last place.  The lower end is nearer when the significand is the least of its binade. -/
structure Interval where
  low : Nat
  high : Nat
  exponent : Int
  closed : Bool

/-- The interval of a double that is not zero. -/
def Parts.interval (parts : Parts) : Interval where
  low := if parts.significand = fractionCount ∧ -1074 < parts.exponent
    then 4 * parts.significand - 1 else 4 * parts.significand - 2
  high := 4 * parts.significand + 2
  exponent := parts.exponent - 2
  closed := parts.significand % 2 == 0

/-- Whether `candidate * 10 ^ e` lies in the interval. -/
def Interval.holds (interval : Interval) (candidate : Nat) (e : Int) : Bool :=
  let low := compareScaled interval.low interval.exponent candidate e
  let high := compareScaled interval.high interval.exponent candidate e
  (low == .lt || (interval.closed && low == .eq)) &&
    (high == .gt || (interval.closed && high == .eq))

/-- The integer part of `significand * 2 ^ exponent / 10 ^ e`. -/
def Parts.quotient (parts : Parts) (e : Int) : Nat :=
  (parts.significand * 2 ^ parts.exponent.toNat * 10 ^ (-e).toNat) /
    (10 ^ e.toNat * 2 ^ (-parts.exponent).toNat)

/-- Which of two neighbours on a decimal grid is taken when both are equally near. -/
inductive Tie where
  | even
  | up
  deriving DecidableEq, Repr

/-- The point taken of `below` and the one above it when the double lies in their middle. -/
def Tie.choose (tie : Tie) (below : Nat) : Nat :=
  if tie = .even ∧ below % 2 = 0 then below else below + 1

/-- Searches the decimal grids from coarse to fine for one with a point in the interval. -/
def search (tie : Tie) (parts : Parts) : Nat → Int → Nat × Int
  | 0, e => (parts.quotient e, e)
  | fuel + 1, e =>
    let below := parts.quotient e
    let holdsBelow := parts.interval.holds below e
    let holdsAbove := parts.interval.holds (below + 1) e
    if holdsBelow ∧ holdsAbove then
      match compareScaled (2 * parts.significand) parts.exponent (2 * below + 1) e with
      | .lt => (below, e)
      | .gt => (below + 1, e)
      | .eq => (tie.choose below, e)
    else if holdsBelow then (below, e)
    else if holdsAbove then (below + 1, e)
    else search tie parts fuel (e - 1)

/-- The shortest decimal `digits * 10 ^ exponent` of a finite double without its sign. -/
def Parts.shortest (parts : Parts) (tie : Tie) : Nat × Int :=
  if parts.significand = 0 then (0, 0)
  else
    let bits : Int := (Nat.log2 parts.significand + 1 : Nat) + parts.exponent
    search tie parts 24 (bits * 30103 / 100000 + 1)

/-- Sign, digits and exponent of the shortest decimal of a finite double. -/
def shortest? (value : Float) (tie : Tie) : Option (Bool × Nat × Int) :=
  (Parts.ofBits? value.toBits).map fun parts =>
    (parts.negative, (parts.shortest tie).1, (parts.shortest tie).2)

end SpotSettlement.Binary64
