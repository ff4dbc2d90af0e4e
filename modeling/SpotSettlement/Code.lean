import SpotSettlement.Json.Basic

namespace SpotSettlement

/-! # Stable codes

A closed set of alternatives has one code for each of them.  The same code stands in stored rows,
in events and in messages, and reading accepts nothing else.
-/

/-- A type whose values are named by codes. -/
class Coded (α : Type) where
  /-- What the codes name, as it appears in messages. -/
  noun : String
  /-- Every value, in order of declaration. -/
  values : List α
  /-- The code of a value. -/
  code : α → String

/-- A text that is no code of the type it was read for. -/
structure UnknownCode where
  noun : String
  text : String
  deriving DecidableEq, Repr

def UnknownCode.message (unknown : UnknownCode) : String :=
  "unknown " ++ unknown.noun ++ " code: " ++ unknown.text

namespace Coded

variable {α : Type} [Coded α]

def ofCode? (text : String) : Option α := (values (α := α)).find? (code · == text)

/-- The value that a code names, or the unknown code. -/
def parse (α : Type) [Coded α] (text : String) : Except UnknownCode α :=
  match ofCode? text with
  | some value => .ok value
  | none => .error ⟨noun α, text⟩

def toJson (value : α) : Json := .string (code value)

/-- Reads a value from its code in JSON.  The code may also be the one key of an object, over
`null`. -/
def ofJson? : Json → Option α
  | .string text => ofCode? text
  | .object members =>
    match members.getLast? with
    | some (text, .null) => if members.all (·.1 == text) then ofCode? text else none
    | _ => none
  | _ => none

end Coded

end SpotSettlement
