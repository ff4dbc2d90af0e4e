import SpotSettlement.Json.Basic
import SpotSettlement.Text.Digits

namespace SpotSettlement.Json

open SpotSettlement.Text

/-! # Reading JSON text

Strict JSON: no comments, no trailing commas, no leading zeros, at most 127 nested arrays and
objects.  An escape that names half of a surrogate pair is refused.  Every function takes the
characters that are left and returns what it read with the characters after it.
-/

/-- Blanks between the tokens of JSON. -/
def isSpace (c : Char) : Bool := c == ' ' || c == '\n' || c == '\t' || c == '\r'

/-- The characters after the leading blanks. -/
def skipSpace (input : List Char) : List Char := input.dropWhile isSpace

def hexQuad? : List Char → Option (Nat × List Char)
  | a :: b :: c :: d :: rest => do
    let a ← hexValue? a
    let b ← hexValue? b
    let c ← hexValue? c
    let d ← hexValue? d
    return (((a * 16 + b) * 16 + c) * 16 + d, rest)
  | _ => none

/-- The character named by the digits after `\u`.  A high surrogate needs its low half. -/
def unicodeEscape? (input : List Char) : Option (Char × List Char) := do
  let (point, rest) ← hexQuad? input
  if 0xDC00 ≤ point ∧ point ≤ 0xDFFF then none
  else if 0xD800 ≤ point ∧ point ≤ 0xDBFF then
    match rest with
    | '\\' :: 'u' :: rest =>
      let (low, rest) ← hexQuad? rest
      if 0xDC00 ≤ low ∧ low ≤ 0xDFFF then
        return (Char.ofNat (0x10000 + (point - 0xD800) * 0x400 + (low - 0xDC00)), rest)
      else none
    | _ => none
  else return (Char.ofNat point, rest)

/-- The character that a one-letter escape stands for. -/
def simpleEscape? : Char → Option Char
  | '"' => some '"'
  | '\\' => some '\\'
  | '/' => some '/'
  | 'b' => some (Char.ofNat 8)
  | 'f' => some (Char.ofNat 12)
  | 'n' => some '\n'
  | 'r' => some '\r'
  | 't' => some '\t'
  | _ => none

/-- The rest of a string after its opening quote; `seen` holds what was read, last first. -/
def stringTail? : Nat → List Char → List Char → Option (String × List Char)
  | 0, _, _ => none
  | _ + 1, _, [] => none
  | _ + 1, seen, '"' :: rest => some (String.ofList seen.reverse, rest)
  | fuel + 1, seen, '\\' :: 'u' :: rest => do
    let (c, rest) ← unicodeEscape? rest
    stringTail? fuel (c :: seen) rest
  | fuel + 1, seen, '\\' :: c :: rest => do
    let c ← simpleEscape? c
    stringTail? fuel (c :: seen) rest
  | fuel + 1, seen, c :: rest =>
    if c.toNat < 32 ∨ c = '\\' then none else stringTail? fuel (c :: seen) rest

/-- The digits before the point: a single zero, or a row that does not start with one. -/
def whole? (input : List Char) : Option (List Char × List Char) :=
  match splitDigits input with
  | ([], _) => none
  | ('0' :: _ :: _, _) => none
  | found => some found

/-- The digits after the point, if there is a point. -/
def fraction? (input : List Char) : Option (List Char × List Char) :=
  match input with
  | '.' :: rest => match splitDigits rest with
    | ([], _) => none
    | found => some found
  | _ => some ([], input)

def exponent? (input : List Char) : Option (Option Int × List Char) :=
  match input with
  | c :: rest =>
    if c = 'e' ∨ c = 'E' then
      let (negative, rest) := match rest with
        | '-' :: rest => (true, rest)
        | '+' :: rest => (false, rest)
        | _ => (false, rest)
      match splitDigits rest with
      | ([], _) => none
      | (row, rest) =>
        let value : Int := digitsValue row
        some (some (if negative then -value else value), rest)
    else some (none, input)
  | [] => some (none, [])

/-- The written form of a number: its sign, its digits before and after the point, and the exponent
if there is one. -/
structure Numeral where
  negative : Bool
  whole : List Char
  fraction : List Char
  exponent : Option Int

/-- The written form of a number that the input starts with. -/
def numeral? (input : List Char) : Option (Numeral × List Char) := do
  let (negative, rest) := match input with
    | '-' :: rest => (true, rest)
    | _ => (false, input)
  let (whole, rest) ← whole? rest
  let (fraction, rest) ← fraction? rest
  let (exponent, rest) ← exponent? rest
  return ({ negative, whole, fraction, exponent }, rest)

/-- Takes further digits into a number as long as it fits 64 bits, and counts those left out. -/
def takeDigits (coefficient : Nat) : List Char → Nat × Nat
  | [] => (coefficient, 0)
  | c :: rest =>
    let next := coefficient * 10 + digitsValue [c]
    if next < wordSize 64 then takeDigits next rest else (coefficient, rest.length + 1)

/-- The number that is written.  One with a fraction or an exponent keeps the digits that fit
64 bits; a digit left out before the point does not keep those after the point out. -/
def Numeral.toNumber (numeral : Numeral) : Number :=
  let value := digitsValue numeral.whole
  if numeral.fraction.isEmpty ∧ numeral.exponent.isNone ∧ ¬ (numeral.negative ∧ value = 0) then
    .integer (if numeral.negative then -value else value)
  else
    let (upToPoint, leftBefore) := takeDigits 0 numeral.whole
    let (coefficient, leftAfter) := takeDigits upToPoint numeral.fraction
    let places : Int := numeral.fraction.length - leftAfter
    .scientific numeral.negative coefficient (numeral.exponent.getD 0 + leftBefore - places)

def number? (input : List Char) : Option (Number × List Char) :=
  (numeral? input).map fun (numeral, rest) => (numeral.toNumber, rest)

/-- The characters after a word that the input must start with. -/
def word? : List Char → List Char → Option (List Char)
  | [], input => some input
  | c :: word, d :: input => if c = d then word? word input else none
  | _ :: _, [] => none

mutual

/-- A value.  `depth` counts the arrays and objects that may still be opened. -/
def value? (fuel depth : Nat) (input : List Char) : Option (Json × List Char) :=
  match fuel with
  | 0 => none
  | fuel + 1 =>
    match skipSpace input with
    | '"' :: rest => do
      let (text, rest) ← stringTail? (rest.length + 1) [] rest
      return (.string text, rest)
    | '[' :: rest =>
      match depth, skipSpace rest with
      | 0, _ | 1, _ => none
      | _, ']' :: rest => some (.array [], rest)
      | depth + 1, rest => do
        let (items, rest) ← items? fuel depth [] rest
        return (.array items, rest)
    | '\x7b' :: rest =>
      match depth, skipSpace rest with
      | 0, _ | 1, _ => none
      | _, '\x7d' :: rest => some (.object [], rest)
      | depth + 1, rest => do
        let (members, rest) ← members? fuel depth [] rest
        return (.object members, rest)
    | 't' :: rest => do
      let rest ← word? ['r', 'u', 'e'] rest
      return (.bool true, rest)
    | 'f' :: rest => do
      let rest ← word? ['a', 'l', 's', 'e'] rest
      return (.bool false, rest)
    | 'n' :: rest => do
      let rest ← word? ['u', 'l', 'l'] rest
      return (.null, rest)
    | rest => do
      let (value, rest) ← number? rest
      return (.number value, rest)

/-- The items of an array from one of them up to the closing bracket. -/
def items? (fuel depth : Nat) (seen : List Json) (input : List Char) :
    Option (List Json × List Char) :=
  match fuel with
  | 0 => none
  | fuel + 1 => do
    let (item, rest) ← value? fuel depth input
    match skipSpace rest with
    | ']' :: rest => return ((item :: seen).reverse, rest)
    | ',' :: rest => items? fuel depth (item :: seen) rest
    | _ => none

/-- The members of an object from one of them up to the closing brace. -/
def members? (fuel depth : Nat) (seen : List (String × Json)) (input : List Char) :
    Option (List (String × Json) × List Char) :=
  match fuel with
  | 0 => none
  | fuel + 1 =>
    match skipSpace input with
    | '"' :: rest => do
      let (key, rest) ← stringTail? (rest.length + 1) [] rest
      match skipSpace rest with
      | ':' :: rest => do
        let (value, rest) ← value? fuel depth rest
        match skipSpace rest with
        | '\x7d' :: rest => return (((key, value) :: seen).reverse, rest)
        | ',' :: rest => members? fuel depth ((key, value) :: seen) rest
        | _ => none
      | _ => none
    | _ => none

end

/-- Nesting that the reader goes along with. -/
def depthLimit : Nat := 128

/-- A whole text as one value, blanks around it allowed. -/
def parse? (text : String) : Option Json :=
  let input := text.toList
  match value? (2 * input.length + 2) depthLimit input with
  | some (value, rest) => if (skipSpace rest).isEmpty then some value else none
  | none => none

end SpotSettlement.Json
