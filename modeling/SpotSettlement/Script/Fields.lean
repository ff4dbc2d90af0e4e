import SpotSettlement.Code
import SpotSettlement.Decimal.Text
import SpotSettlement.Json.Number
import SpotSettlement.Time.Instant

namespace SpotSettlement.Json

/-! # The fields of a script

A script says as JSON what is to be done.  In its entries a field that is absent and one that is
`null` are the same; a field that is not of the expected kind counts as absent.  Moments and
durations are whole milliseconds, and decimals are text.
-/

/-- The value of a field, `null` if it is absent. -/
def valueAt (entry : Json) (key : String) : Json := (entry.get? key).getD .null

def hasAt (entry : Json) (key : String) : Bool := !(entry.valueAt key).isNull

def textAt? (entry : Json) (key : String) : Option String := (entry.valueAt key).string?

/-- A text, empty if it is absent. -/
def textAt (entry : Json) (key : String) : String := (entry.textAt? key).getD ""

/-- A flag, down if it is absent. -/
def flagAt (entry : Json) (key : String) : Bool := ((entry.valueAt key).bool?).getD false

def intAt? (entry : Json) (key : String) : Option Int :=
  match entry.valueAt key with
  | .number (.integer value) => some value
  | _ => none

def natAt? (entry : Json) (key : String) : Option Nat := (entry.intAt? key).map Int.toNat

def natAt (entry : Json) (key : String) (default : Nat) : Nat := (entry.natAt? key).getD default

def floatAt (entry : Json) (key : String) (default : Float) : Float :=
  ((entry.valueAt key).float?).getD default

/-- A list, empty if it is absent. -/
def listAt (entry : Json) (key : String) : List Json := ((entry.valueAt key).array?).getD []

def textsAt (entry : Json) (key : String) : List String := (entry.listAt key).filterMap string?

def decimalAt? (entry : Json) (key : String) : Option Decimal :=
  (entry.textAt? key).bind Decimal.ofText?

/-- A decimal, zero if it is absent. -/
def decimalAt (entry : Json) (key : String) : Decimal := (entry.decimalAt? key).getD .zero

def momentAt (entry : Json) (key : String) (default : Instant) : Instant :=
  ((entry.intAt? key).map Instant.ofMillis).getD default

def durationAt? (entry : Json) (key : String) : Option Duration :=
  (entry.natAt? key).map Duration.ofMillis

def durationAt (entry : Json) (key : String) (default : Duration) : Duration :=
  (entry.durationAt? key).getD default

def codedAt? (entry : Json) (key : String) {α : Type} [Coded α] : Option α :=
  (entry.textAt? key).bind Coded.ofCode?

def codedAt {α : Type} [Coded α] (entry : Json) (key : String) (default : α) : α :=
  (entry.codedAt? key).getD default

end SpotSettlement.Json
