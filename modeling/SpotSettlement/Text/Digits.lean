namespace SpotSettlement.Text

/-! # Digits -/

/-- The number that a row of decimal digits writes. -/
def digitsValue (row : List Char) : Nat :=
  row.foldl (fun value c => value * 10 + (c.toNat - 48)) 0

/-- The leading decimal digits and what follows them. -/
def splitDigits (input : List Char) : List Char × List Char :=
  (input.takeWhile Char.isDigit, input.dropWhile Char.isDigit)

/-- The number with leading zeros up to a width. -/
def padded (width value : Nat) : String :=
  let digits := (toString value).toList
  String.ofList (List.replicate (width - digits.length) '0' ++ digits)

/-- Digits with a point before the last `places` of them, and at least one digit before it. -/
def pointed (places : Nat) (value : Nat) : String :=
  let digits := (padded (places + 1) value).toList
  let whole := String.ofList (digits.take (digits.length - places))
  if places = 0 then whole
  else whole ++ "." ++ String.ofList (digits.drop (digits.length - places))

def lowerHexDigit (value : Nat) : Char :=
  if value < 10 then Char.ofNat (48 + value) else Char.ofNat (87 + value)

def upperHexDigit (value : Nat) : Char :=
  if value < 10 then Char.ofNat (48 + value) else Char.ofNat (55 + value)

/-- The value of a hexadecimal digit of either case. -/
def hexValue? (c : Char) : Option Nat :=
  if '0' ≤ c ∧ c ≤ '9' then some (c.toNat - 48)
  else if 'a' ≤ c ∧ c ≤ 'f' then some (c.toNat - 87)
  else if 'A' ≤ c ∧ c ≤ 'F' then some (c.toNat - 55)
  else none

/-- Bytes in hexadecimal, in lower case. -/
def hexText (bytes : List UInt8) : String :=
  String.ofList (bytes.flatMap fun byte =>
    [lowerHexDigit (byte.toNat / 16), lowerHexDigit (byte.toNat % 16)])

theorem hexValue?_upperHexDigit : ∀ value < 16, hexValue? (upperHexDigit value) = some value := by
  decide

end SpotSettlement.Text
