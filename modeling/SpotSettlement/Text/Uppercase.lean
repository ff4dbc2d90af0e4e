import SpotSettlement.Text.CaseTable

namespace SpotSettlement.Text

/-! # Upper case

Symbols and assets are compared in upper case.  Two mappings are in use: the full one of the
Unicode standard, under which a text may grow (`ß` becomes `SS`), and the one that touches only the
letters `a` to `z`.
-/

/-- The full upper-case form of one character. -/
def upperChar (c : Char) : List Char :=
  if c.toNat < 128 then [c.toUpper]
  else match upperExpansions.find? (fun entry => entry.1 == c.toNat) with
    | some (_, points) => points.map Char.ofNat
    | none => match upperRuns.find? (·.covers c.toNat) with
      | some run => [Char.ofNat ((c.toNat : Int) + run.shift).toNat]
      | none => [c]

/-- The full upper-case form of a text. -/
def upper (text : String) : String := String.ofList (text.toList.flatMap upperChar)

/-- The text with its letters `a` to `z` in upper case. -/
def asciiUpper (text : String) : String := String.ofList (text.toList.map Char.toUpper)

/-- The text with its letters `A` to `Z` in lower case. -/
def asciiLower (text : String) : String := String.ofList (text.toList.map Char.toLower)

theorem upperChar_of_ascii {c : Char} (ascii : c.toNat < 128) : upperChar c = [c.toUpper] := by
  simp [upperChar, ascii]

end SpotSettlement.Text
