import SpotSettlement.Power

namespace SpotSettlement

/-! # JSON values

Events, audit details, exchange frames and request bodies are JSON.  An object keeps its members in
the order they were written, repeated keys included; `Json.get?` lets the last of them win, and a
reader that must refuse repetition asks `Json.repeats`.
-/

/-- A number as it is written.  A number with a fraction or an exponent, and the integer `-0`,
stand for `± coefficient * 10 ^ exponent`. -/
inductive Json.Number where
  | integer (value : Int)
  | scientific (negative : Bool) (coefficient : Nat) (exponent : Int)
  deriving DecidableEq, Inhabited

inductive Json where
  | null
  | bool (value : Bool)
  | number (value : Json.Number)
  | string (value : String)
  | array (items : List Json)
  | object (members : List (String × Json))
  deriving Inhabited

namespace Json

def ofInt (value : Int) : Json := .number (.integer value)

def ofNat (value : Nat) : Json := .number (.integer value)

/-- The value, or `null` for an absent one. -/
def ofOption {α : Type} (encode : α → Json) : Option α → Json
  | none => .null
  | some value => encode value

/-- The members of an object; any other value has none. -/
def members : Json → List (String × Json)
  | .object members => members
  | _ => []

/-- The value of the last member with this key. -/
def get? (value : Json) (key : String) : Option Json :=
  (value.members.reverse.find? (·.1 == key)).map (·.2)

/-- Whether the key is written more than once. -/
def repeats (value : Json) (key : String) : Bool :=
  1 < (value.members.filter (·.1 == key)).length

def isObject : Json → Bool
  | .object _ => true
  | _ => false

def isNull : Json → Bool
  | .null => true
  | _ => false

def string? : Json → Option String
  | .string text => some text
  | _ => none

def bool? : Json → Option Bool
  | .bool value => some value
  | _ => none

def array? : Json → Option (List Json)
  | .array items => some items
  | _ => none

/-- An integer between the bounds.  A number written with a fraction or an exponent is none. -/
def integer? (low high : Int) : Json → Option Int
  | .number (.integer value) => if low ≤ value ∧ value ≤ high then some value else none
  | _ => none

def int64? (value : Json) : Option Int := value.integer? (-wordSize 63) (wordSize 63 - 1)

/-- A natural number of at most the given count of bits. -/
def unsigned? (bits : Nat) (value : Json) : Option Nat :=
  (value.integer? 0 (wordSize bits - 1)).map Int.toNat

/-- An optional value: `null` is absent, anything else must be readable. -/
def optional? {α : Type} (read : Json → Option α) : Json → Option (Option α)
  | .null => some none
  | value => (read value).map some

/-- A member that must be there. -/
def field? {α : Type} (value : Json) (key : String) (read : Json → Option α) : Option α :=
  (value.get? key).bind read

/-- A member that may be missing or `null`, and must otherwise be readable. -/
def optionalField? {α : Type} (value : Json) (key : String) (read : Json → Option α) :
    Option (Option α) :=
  match value.get? key with
  | none => some none
  | some found => optional? read found

/-- The value as a record of named members.  An array with one item for each name is a record too,
its items being the members in order. -/
def record? (value : Json) (names : List String) : Option Json :=
  match value with
  | .object _ => some value
  | .array items => if items.length = names.length then some (.object (names.zip items)) else none
  | _ => none

@[simp] theorem record?_object (members : List (String × Json)) (names : List String) :
    (Json.object members).record? names = some (.object members) := rfl

end Json

end SpotSettlement
