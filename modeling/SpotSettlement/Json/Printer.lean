import SpotSettlement.Json.Basic
import SpotSettlement.Text.Digits

namespace SpotSettlement.Json

/-! # Compact JSON text

The text has no blanks.  A quote, a backslash and the control characters are escaped, everything
else stands for itself.
-/

/-- One character inside a JSON string. -/
def escapeChar (c : Char) : List Char :=
  if c = '"' then ['\\', '"']
  else if c = '\\' then ['\\', '\\']
  else if c = '\n' then ['\\', 'n']
  else if c = '\r' then ['\\', 'r']
  else if c = '\t' then ['\\', 't']
  else if c.toNat = 8 then ['\\', 'b']
  else if c.toNat = 12 then ['\\', 'f']
  else if c.toNat < 32 then
    ['\\', 'u', '0', '0', Text.lowerHexDigit (c.toNat / 16), Text.lowerHexDigit (c.toNat % 16)]
  else [c]

def quote (text : String) : String :=
  String.ofList ('"' :: text.toList.flatMap escapeChar ++ ['"'])

def Number.text : Number → String
  | .integer value => toString value
  | .scientific negative coefficient exponent =>
    let sign := if negative then "-" else ""
    if 0 ≤ exponent then
      sign ++ toString (coefficient * 10 ^ exponent.toNat) ++ ".0"
    else sign ++ Text.pointed (-exponent).toNat coefficient

mutual

/-- A value as compact JSON text. -/
def text : Json → String
  | .null => "null"
  | .bool true => "true"
  | .bool false => "false"
  | .number value => value.text
  | .string value => quote value
  | .array items => "[" ++ itemsText items ++ "]"
  | .object members => "\x7b" ++ membersText members ++ "\x7d"

def itemsText : List Json → String
  | [] => ""
  | [item] => text item
  | item :: rest => text item ++ "," ++ itemsText rest

def membersText : List (String × Json) → String
  | [] => ""
  | [(key, value)] => quote key ++ ":" ++ text value
  | (key, value) :: rest => quote key ++ ":" ++ text value ++ "," ++ membersText rest

end

end SpotSettlement.Json
