import SpotSettlement.Decimal.Arithmetic
import SpotSettlement.Json.Number
import SpotSettlement.Text.Digits

namespace SpotSettlement.Decimal

/-! # Decimal text

A decimal is written with its sign, a point and exactly as many places as its scale.  Plain text is
read with an optional sign, at most one point and underscores after digits; digits after the point
that do not fit are dropped, with half up at the first one dropped.  JSON also allows scientific
notation in a string, integers, and floating-point numbers by their shortest decimal.
-/

/-- The written form, with all places of the scale. -/
def text (d : Decimal) : String :=
  (if d.negative then "-" else "") ++ Text.pointed d.scale d.mantissa

instance : ToString Decimal := ⟨text⟩

/-- What has been read of a decimal: the sign, the digits, the places after the point if it was
reached, and whether any digit was seen. -/
structure Reading where
  negative : Bool
  mantissa : Nat
  places : Nat
  pointSeen : Bool
  digitSeen : Bool

/-- The end of a reading; without a digit there is no number. -/
def Reading.finish (r : Reading) : Option Decimal :=
  if r.digitSeen then ofParts? r.negative r.mantissa r.places else none

/-- The end of a reading whose digits are full.  The next digit decides the rounding, and only
digits and underscores may follow. -/
def Reading.round (r : Reading) (rest : List Char) : Option Decimal :=
  if rest.all fun c => c.isDigit || c == '_' then
    match rest.filter Char.isDigit with
    | [] => r.finish
    | next :: _ =>
      if next.toNat < 53 then r.finish
      else if r.mantissa + 1 < mantissaBound then ofParts? r.negative (r.mantissa + 1) r.places
      else if r.places = 0 then none
      else ofParts? r.negative ((r.mantissa + 5) / 10) (r.places - 1)
  else none

/-- Reads on from a character of the text. -/
def Reading.run (r : Reading) : List Char → Option Decimal
  | [] => r.finish
  | c :: rest =>
    if r.pointSeen ∧ maxScale ≤ r.places then r.round (c :: rest)
    else if c.isDigit then
      let mantissa := r.mantissa * 10 + (c.toNat - 48)
      if mantissa < mantissaBound then
        let places := if r.pointSeen then r.places + 1 else 0
        run { r with mantissa, places, digitSeen := true } rest
      else if r.pointSeen then r.round (c :: rest)
      else none
    else if c = '.' ∧ ¬ r.pointSeen then run { r with pointSeen := true } rest
    else if c = '_' ∧ r.digitSeen then run r rest
    else none

def ofPlainText? (text : String) : Option Decimal :=
  match text.toList with
  | '-' :: rest => Reading.run ⟨true, 0, 0, false, false⟩ rest
  | '+' :: rest => Reading.run ⟨false, 0, 0, false, false⟩ rest
  | characters => Reading.run ⟨false, 0, 0, false, false⟩ characters

/-- Reads a natural number of 32 bits, a plus sign allowed. -/
def exponentDigits? (characters : List Char) : Option Nat :=
  let digits := match characters with
    | '+' :: rest => rest
    | _ => characters
  if digits.isEmpty ∨ ¬ digits.all Char.isDigit then none
  else
    let value := Text.digitsValue digits
    if value < wordSize 32 then some value else none

/-- The decimal times `10 ^ exponent`. -/
def shiftLeft? (base : Decimal) (exponent : Nat) : Option Decimal :=
  if exponent ≤ base.scale then
    if bound : base.scale - exponent ≤ maxScale then
      some { base with scale := base.scale - exponent, scale_le := bound }
    else none
  else if maxScale < exponent then none
  else
    let first := Min.min exponent 19
    let power (places : Nat) : Option Decimal := ofParts? false (10 ^ places) 0
    let times (value : Decimal) (places : Nat) : Option Decimal :=
      if places = 0 then some value else (power places).bind fun p => (mul value p).toOption
    ((times base first).bind fun value => times value (exponent - first)).map normalize

/-- The quotient by `10 ^ places`, rounded to nearest, a half away from zero. -/
def roundHalfUp (mantissa places : Nat) : Nat := (2 * mantissa + 10 ^ places) / (2 * 10 ^ places)

/-- The decimal divided by `10 ^ exponent`; places beyond the last are rounded away. -/
def shiftRight? (base : Decimal) (exponent : Nat) : Option Decimal :=
  if exponent ≤ maxScale then
    let scale := base.scale + exponent
    let places := scale - maxScale
    ofSignedParts? base.negative (roundHalfUp base.mantissa places) (scale - places)
  else none

/-- Reads scientific notation: plain decimal text, `e` or `E`, an integer. -/
def ofScientificText? (text : String) : Option Decimal :=
  let characters := text.toList
  let isMark (c : Char) : Bool := c == 'e' || c == 'E'
  let base := characters.takeWhile (!isMark ·)
  match characters.dropWhile (!isMark ·) with
  | [] => none
  | _ :: exponent => do
    let base ← ofPlainText? (String.ofList base)
    match exponent with
    | '-' :: digits => shiftRight? base (← exponentDigits? digits)
    | digits => shiftLeft? base (← exponentDigits? digits)

/-- Reads decimal text of either notation. -/
def ofText? (text : String) : Option Decimal :=
  (ofPlainText? text).or (ofScientificText? text)

/-- The plain text of a double's shortest decimal. -/
def floatText (negative : Bool) (digits : Nat) (exponent : Int) : String :=
  (if negative then "-" else "") ++
    Text.pointed (-exponent).toNat (digits * 10 ^ exponent.toNat)

def ofJson? : Json → Option Decimal
  | .string text => ofText? text
  | .number (.integer value) =>
    if -wordSize 63 ≤ value ∧ value < wordSize 64 then
      ofParts? (decide (value < 0)) value.natAbs 0
    else ofFloat? (.integer value)
  | .number value => ofFloat? value
  | _ => none
where
  /-- Reads the shortest decimal of the double that a number stands for. -/
  ofFloat? (value : Json.Number) : Option Decimal := do
    let (negative, digits, exponent) ← Binary64.shortest? (← value.toFloat?) .up
    ofPlainText? (floatText negative digits exponent)

/-- A decimal is a JSON string. -/
def toJson (d : Decimal) : Json := .string d.text

end SpotSettlement.Decimal
