namespace SpotSettlement.Text

/-! # Blank characters

A character is blank when it has the Unicode property `White_Space`.  Identifiers and symbols are
compared and stored after trimming, and a field made of blanks only counts as empty.
-/

/-- The code points with the property `White_Space`, as closed ranges. -/
def blankRanges : List (Nat × Nat) :=
  [(0x9, 0xD), (0x20, 0x20), (0x85, 0x85), (0xA0, 0xA0), (0x1680, 0x1680), (0x2000, 0x200A),
    (0x2028, 0x2029), (0x202F, 0x202F), (0x205F, 0x205F), (0x3000, 0x3000)]

/-- Whether the character has the property `White_Space`. -/
def isBlankChar (c : Char) : Bool :=
  blankRanges.any fun range => range.1 ≤ c.toNat && c.toNat ≤ range.2

/-- The characters between the outermost ones that are not blank. -/
def trimChars (characters : List Char) : List Char :=
  (((characters.dropWhile isBlankChar).reverse).dropWhile isBlankChar).reverse

def trim (text : String) : String := String.ofList (trimChars text.toList)

/-- Whether nothing is left of the text once it is trimmed. -/
def isBlank (text : String) : Bool := text.toList.all isBlankChar

end SpotSettlement.Text
