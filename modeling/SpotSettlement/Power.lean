namespace SpotSettlement

/-! # Powers

Inside this library a power is core's own one, whatever other powers are in sight.  Powers of two
count the values of a word.
-/

attribute [scoped instance (1100)] instPowNat

/-- How many values a word of so many bits has. -/
def wordSize (bits : Nat) : Nat := 2 ^ bits

end SpotSettlement
