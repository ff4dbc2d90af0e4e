import SpotSettlement.Power
import SpotSettlement.Text.Digits

namespace SpotSettlement

/-! # Socket addresses

An address of four bytes or of eight groups of 16 bits, with a port.  Groups are written in
hexadecimal; the longest row of zero groups may be left out, and the last two groups may be written
as four bytes.
-/

inductive SocketAddress where
  /-- Four bytes. -/
  | v4 (bytes : List Nat) (port : Nat)
  /-- Eight groups, and the scope that they are meant in. -/
  | v6 (groups : List Nat) (scope : Nat) (port : Nat)
  deriving DecidableEq, Repr, Inhabited

namespace SocketAddress

/-- A number in decimal digits, up to a limit. -/
def decimal? (limit : Nat) (input : List Char) : Option (Nat × List Char) :=
  match Text.splitDigits input with
  | ([], _) => none
  | (row, rest) =>
    let value := Text.digitsValue row
    if value ≤ limit then some (value, rest) else none

/-- One byte of an address: at most three digits, no zero before another digit. -/
def byte? (input : List Char) : Option (Nat × List Char) :=
  match Text.splitDigits input with
  | ([], _) => none
  | ('0' :: _ :: _, _) => none
  | (row, rest) =>
    let value := Text.digitsValue row
    if row.length ≤ 3 ∧ value ≤ 255 then some (value, rest) else none

/-- The characters after one that must come first. -/
def after? (c : Char) : List Char → Option (List Char)
  | d :: rest => if c = d then some rest else none
  | [] => none

/-- Four bytes with points between them. -/
def bytes? (input : List Char) : Option (List Nat × List Char) := do
  let (a, rest) ← byte? input
  let (b, rest) ← byte? (← after? '.' rest)
  let (c, rest) ← byte? (← after? '.' rest)
  let (d, rest) ← byte? (← after? '.' rest)
  return ([a, b, c, d], rest)

/-- One group: one to four hexadecimal digits. -/
def group? (input : List Char) : Option (Nat × List Char) :=
  let isDigit := fun c => (Text.hexValue? c).isSome
  let row := input.takeWhile isDigit
  if row.isEmpty ∨ 4 < row.length then none
  else some (row.foldl (fun value c => value * 16 + (Text.hexValue? c).getD 0) 0,
    input.dropWhile isDigit)

/-- Groups with colons between them, at most so many, and whether the last two were written as four
bytes. -/
def groups : Nat → Bool → List Char → List Nat × Bool × List Char
  | 0, _, input => ([], false, input)
  | count + 1, isFirst, input =>
    let start := if isFirst then some input else after? ':' input
    match start with
    | none => ([], false, input)
    | some start =>
      match if count = 0 then none else bytes? start with
      | some ([a, b, c, d], rest) => ([a * 256 + b, c * 256 + d], true, rest)
      | _ =>
        match group? start with
        | none => ([], false, input)
        | some (group, rest) =>
          let (more, ended, rest) := groups count false rest
          (group :: more, ended, rest)

/-- Eight groups, a row of zeros left out or not. -/
def eightGroups? (input : List Char) : Option (List Nat × List Char) := do
  let (head, ended, rest) := groups 8 true input
  if head.length = 8 then return (head, rest)
  if ended then none
  let rest ← after? ':' (← after? ':' rest)
  let (tail, _, rest) := groups (7 - head.length) true rest
  return (head ++ List.replicate (8 - head.length - tail.length) 0 ++ tail, rest)

/-- The scope after a percent sign, nought if there is none. -/
def scope? (input : List Char) : Option (Nat × List Char) :=
  match input with
  | '%' :: rest => decimal? (wordSize 32 - 1) rest
  | _ => some (0, input)

/-- The port after a colon, which ends the address. -/
def port? (input : List Char) : Option Nat := do
  let (port, rest) ← decimal? (wordSize 16 - 1) (← after? ':' input)
  if rest.isEmpty then return port else none

/-- Reads an address of four bytes. -/
def v4? (input : List Char) : Option SocketAddress := do
  let (bytes, rest) ← bytes? input
  return .v4 bytes (← port? rest)

/-- Reads an address of eight groups, which stands in brackets. -/
def v6? (input : List Char) : Option SocketAddress := do
  let (groups, rest) ← eightGroups? (← after? '[' input)
  let (scope, rest) ← scope? rest
  return .v6 groups scope (← port? (← after? ']' rest))

def ofText? (text : String) : Option SocketAddress := (v4? text.toList).or (v6? text.toList)

def joined (separator : String) (parts : List Nat) (write : Nat → String) : String :=
  separator.intercalate (parts.map write)

/-- A group in hexadecimal, without leading zeros. -/
def groupText (group : Nat) : String :=
  let digits := [group / 4096, group / 256 % 16, group / 16 % 16, group % 16]
  String.ofList (((digits.take 3).dropWhile (· == 0) ++ digits.drop 3).map Text.lowerHexDigit)

/-- The length of the row of zeros that the groups start with. -/
def zerosAtStart (groups : List Nat) : Nat := (groups.takeWhile (· == 0)).length

/-- Where the longest row of zeros is that is longer than `best`, and its length. -/
def longestZeros : Nat → Nat × Nat → List Nat → Nat × Nat
  | _, best, [] => best
  | index, best, group :: rest =>
    let length := zerosAtStart (group :: rest)
    longestZeros (index + 1) (if best.2 < length then (index, length) else best) rest

/-- Eight groups as text.  The first of the longest rows of two or more zeros is left out; an
address that stands for one of four bytes shows them. -/
def groupsText (groups : List Nat) : String :=
  match groups with
  | [0, 0, 0, 0, 0, 0xffff, high, low] =>
    "::ffff:" ++ joined "." [high / 256, high % 256, low / 256, low % 256] toString
  | _ =>
    let (start, length) := longestZeros 0 (0, 1) groups
    if length < 2 then joined ":" groups groupText
    else joined ":" (groups.take start) groupText ++ "::" ++
      joined ":" (groups.drop (start + length)) groupText

def text : SocketAddress → String
  | .v4 bytes port => joined "." bytes toString ++ ":" ++ toString port
  | .v6 groups scope port =>
    let scope := if scope = 0 then "" else "%" ++ toString scope
    "[" ++ groupsText groups ++ scope ++ "]:" ++ toString port

end SocketAddress

end SpotSettlement
