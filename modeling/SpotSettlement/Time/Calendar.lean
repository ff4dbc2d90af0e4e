import SpotSettlement.Time.Instant
import SpotSettlement.Json.Basic
import SpotSettlement.Text.Blank
import SpotSettlement.Text.Digits

namespace SpotSettlement

open SpotSettlement.Text

/-! # Calendar text

In JSON a moment is an RFC 3339 text in UTC.  Its fraction has no digits, or three, six or nine,
the fewest that say it exactly.  A reader takes any offset from UTC.
-/

/-- A day of the proleptic Gregorian calendar. -/
structure Calendar.Day where
  year : Int
  month : Nat
  day : Nat
  deriving DecidableEq, Repr

namespace Calendar

def isLeap (year : Int) : Bool := year % 4 == 0 && (year % 100 != 0 || year % 400 == 0)

/-- Whether the calendar reaches the year. -/
def hasYear (year : Int) : Bool := -262143 ≤ year && year ≤ 262142

def daysInMonth (year : Int) (month : Nat) : Nat :=
  if month = 2 then (if isLeap year then 29 else 28)
  else if month = 4 ∨ month = 6 ∨ month = 9 ∨ month = 11 then 30
  else 31

/-- Days from the start of 1970; years start in March for the count, so that a leap day is last. -/
def Day.number (d : Day) : Int :=
  let year := if d.month ≤ 2 then d.year - 1 else d.year
  let era := year.fdiv 400
  let yearOfEra := year - era * 400
  let monthFromMarch : Int := (d.month + 9) % 12
  let dayOfYear := (153 * monthFromMarch + 2) / 5 + (d.day - 1)
  let dayOfEra := yearOfEra * 365 + yearOfEra / 4 - yearOfEra / 100 + dayOfYear
  era * 146097 + dayOfEra - 719468

def Day.ofNumber (number : Int) : Day :=
  let shifted := number + 719468
  let era := shifted.fdiv 146097
  let dayOfEra := shifted - era * 146097
  let yearOfEra := (dayOfEra - dayOfEra / 1460 + dayOfEra / 36524 - dayOfEra / 146096) / 365
  let dayOfYear := dayOfEra - (365 * yearOfEra + yearOfEra / 4 - yearOfEra / 100)
  let monthFromMarch := (5 * dayOfYear + 2) / 153
  let day := dayOfYear - (153 * monthFromMarch + 2) / 5 + 1
  let month := if monthFromMarch < 10 then monthFromMarch + 3 else monthFromMarch - 9
  let year := yearOfEra + era * 400 + (if month ≤ 2 then 1 else 0)
  ⟨year, month.toNat, day.toNat⟩

/-- A year: four digits, or a sign and at least five places outside of 0 to 9999. -/
def yearText (year : Int) : String :=
  if 0 ≤ year ∧ year ≤ 9999 then padded 4 year.toNat
  else (if year < 0 then "-" else "+") ++ padded 4 year.natAbs

/-- A fraction of a second with the fewest of 0, 3, 6 or 9 digits. -/
def fractionText (nanoseconds : Nat) : String :=
  if nanoseconds = 0 then ""
  else if nanoseconds % 1000000 = 0 then "." ++ padded 3 (nanoseconds / 1000000)
  else if nanoseconds % 1000 = 0 then "." ++ padded 6 (nanoseconds / 1000)
  else "." ++ padded 9 nanoseconds

end Calendar

open Calendar

/-- The RFC 3339 text of a moment, in UTC.  A leap second is written as second 60. -/
def Instant.text (t : Instant) : String :=
  let seconds := t.counted.fdiv 1000000000
  let nanoseconds := (t.counted - seconds * 1000000000).toNat
  let number := seconds.fdiv 86400
  let second := (seconds - number * 86400).toNat
  let day := Day.ofNumber number
  yearText day.year ++ "-" ++ padded 2 day.month ++ "-" ++ padded 2 day.day ++ "T" ++
    padded 2 (second / 3600) ++ ":" ++ padded 2 (second / 60 % 60) ++ ":" ++
    padded 2 (second % 60 + if t.leap then 1 else 0) ++ fractionText nanoseconds ++ "Z"

namespace Calendar

/-- What follows the blanks at the start. -/
def skipBlanks (input : List Char) : List Char := input.dropWhile isBlankChar

/-- A number of at least one and at most so many digits, blanks before it allowed. -/
def number? (most : Nat) (input : List Char) : Option (Nat × List Char) :=
  let input := skipBlanks input
  let digits := (input.take most).takeWhile Char.isDigit
  if digits.isEmpty then none else some (digitsValue digits, input.drop digits.length)

/-- The rest after an expected character, blanks before it allowed. -/
def mark? (expected : Char) (input : List Char) : Option (List Char) :=
  match skipBlanks input with
  | c :: rest => if c = expected then some rest else none
  | [] => none

/-- A year: at most four digits, or a sign and any count of them. -/
def year? (input : List Char) : Option (Int × List Char) :=
  match skipBlanks input with
  | '-' :: rest => (unbounded? rest).map fun (value, rest) => (-(value : Int), rest)
  | '+' :: rest => (unbounded? rest).map fun (value, rest) => ((value : Int), rest)
  | input => (number? 4 input).map fun (value, rest) => ((value : Int), rest)
where
  /-- The digits after the sign of a year. -/
  unbounded? (input : List Char) : Option (Nat × List Char) :=
    let (digits, rest) := splitDigits input
    if digits.isEmpty then none else some (digitsValue digits, rest)

/-- The fraction after the seconds, in nanoseconds; digits past the ninth do not count. -/
def fraction? : List Char → Option (Nat × List Char)
  | '.' :: rest =>
    let (digits, rest) := splitDigits rest
    if digits.isEmpty then none
    else some (digitsValue (digits.take 9 ++ List.replicate (9 - digits.length) '0'), rest)
  | input => some (0, input)

def pair? : List Char → Option (Nat × List Char)
  | tens :: ones :: rest =>
    if tens.isDigit ∧ ones.isDigit then some (digitsValue [tens, ones], rest) else none
  | _ => none

/-- An offset from UTC in seconds, and what follows it: two digits for the hours and two for the
minutes, with colons or blanks between them or none. -/
def numericOffset? : List Char → Option (Int × List Char)
  | sign :: rest =>
    if sign = '+' ∨ sign = '-' ∨ sign = '−' then do
      let (hours, rest) ← pair? rest
      let (minutes, rest) ← pair? (rest.dropWhile fun c => c == ':' || isBlankChar c)
      if hours < 24 ∧ minutes < 60 then
        let seconds : Int := hours * 3600 + minutes * 60
        some (if sign = '+' then seconds else -seconds, rest)
      else none
    else none
  | [] => none

/-- The offset from UTC in seconds, and what follows it. -/
def offset? (input : List Char) : Option (Int × List Char) :=
  if (input.take 3).map Char.toUpper = ['U', 'T', 'C'] then some (0, input.drop 3)
  else match input with
    | 'Z' :: rest | 'z' :: rest => some (0, rest)
    | _ => numericOffset? input

end Calendar

/-- Reads an RFC 3339 text.  A `T`, a `t` or a blank stands between date and time; numbers need not
have all their places, blanks may stand around the parts, and `UTC` is an offset too. -/
def Instant.ofText? (text : String) : Option Instant := do
  let (year, rest) ← year? text.toList
  let rest ← mark? '-' rest
  let (month, rest) ← number? 2 rest
  let rest ← mark? '-' rest
  let (day, rest) ← number? 2 rest
  let rest ← match rest with
    | 'T' :: rest | 't' :: rest | ' ' :: rest => some rest
    | _ => none
  let (hour, rest) ← number? 2 rest
  let rest ← mark? ':' rest
  let (minute, rest) ← number? 2 rest
  let rest ← mark? ':' rest
  let (second, rest) ← number? 2 rest
  let (nanoseconds, rest) ← fraction? rest
  let (offset, rest) ← offset? (skipBlanks rest)
  if rest.all isBlankChar ∧ hasYear year ∧ 1 ≤ month ∧ month ≤ 12 ∧
      1 ≤ day ∧ day ≤ daysInMonth year month ∧ hour < 24 ∧ minute < 60 ∧ second ≤ 60 then
    let seconds := (Day.number ⟨year, month, day⟩) * 86400 +
      (hour * 3600 + minute * 60 + second : Nat) - offset
    let counted := seconds * 1000000000 + nanoseconds
    let t : Instant := if second = 60 then .ofLeap counted else { nanoseconds := counted }
    if t.inRange then some t else none
  else none

def Instant.toJson (t : Instant) : Json := .string t.text

def Instant.ofJson? : Json → Option Instant
  | .string text => Instant.ofText? text
  | _ => none

end SpotSettlement
