import SpotSettlement.Decimal.Text
import SpotSettlement.Proofs.Text.Digits

namespace SpotSettlement.Decimal

/-! # Reading back decimals

A decimal is read back from its text with its mantissa and its scale.  Only zero loses its sign.
-/

variable {negative pointSeen digitSeen : Bool} {mantissa places : Nat} {row rest : List Char}

theorem le_ofDigitChars (row : List Char) (value : Nat) :
    value ≤ Nat.ofDigitChars 10 row value := by
  rw [Nat.ofDigitChars_eq_ofDigitChars_zero]
  exact Nat.le_add_right_of_le (Nat.le_mul_of_pos_left _ (Nat.pow_pos (by decide)))

/-- A row of digits that fits is read as a whole, before the point as well as after it. -/
theorem run_digits (digits : row.all Char.isDigit = true)
    (fits : Nat.ofDigitChars 10 row mantissa < mantissaBound)
    (scale : places + (if pointSeen then row.length else 0) ≤ maxScale)
    (whole : pointSeen = false → places = 0) :
    Reading.run ⟨negative, mantissa, places, pointSeen, digitSeen⟩ (row ++ rest) =
      Reading.run ⟨negative, Nat.ofDigitChars 10 row mantissa,
        places + (if pointSeen then row.length else 0), pointSeen,
        digitSeen || !row.isEmpty⟩ rest := by
  induction row generalizing mantissa places digitSeen with
  | nil => simp
  | cons c row ih =>
      rw [List.all_cons, Bool.and_eq_true] at digits
      have room : ¬(pointSeen = true ∧ maxScale ≤ places) := by
        rintro ⟨rfl, full⟩
        simp only [if_true, List.length_cons] at scale
        omega
      have step : Nat.ofDigitChars 10 (c :: row) mantissa =
          Nat.ofDigitChars 10 row (mantissa * 10 + (c.toNat - 48)) := by
        simp [Nat.ofDigitChars_eq_foldl, Nat.mul_comm]
      -- Digits make the mantissa no less, so what has been read so far fits as well.
      have small : mantissa * 10 + (c.toNat - 48) < mantissaBound :=
        Nat.lt_of_le_of_lt (le_ofDigitChars row _) (step ▸ fits)
      rw [List.cons_append, Reading.run, if_neg room, if_pos digits.1, step]
      simp only [if_pos small]
      cases pointSeen with
      | true =>
          have next : places + 1 + row.length = places + (row.length + 1) := by omega
          simp only [if_true, List.length_cons, ← next] at *
          rw [ih digits.2 (step ▸ fits) scale nofun]
          simp
      | false =>
          obtain rfl := whole rfl
          rw [if_neg Bool.false_ne_true, ih digits.2 (step ▸ fits) (Nat.zero_le _) fun _ => rfl]
          simp

theorem run_point : Reading.run ⟨negative, mantissa, 0, false, digitSeen⟩ ('.' :: rest) =
    Reading.run ⟨negative, mantissa, 0, true, digitSeen⟩ rest := by
  rw [Reading.run]
  simp [Char.isDigit]

/-- The digits of a mantissa, with the point before the last of them. -/
theorem run_pointed (negative : Bool) (d : Decimal) :
    Reading.run ⟨negative, 0, 0, false, false⟩ (Text.pointed d.scale d.mantissa).toList =
      ofParts? negative d.mantissa d.scale := by
  obtain ⟨whole, fraction, ⟨digits, -, value⟩, nonempty, length, text⟩ :=
    Text.pointed_toList d.scale d.mantissa
  rw [List.all_append, Bool.and_eq_true] at digits
  rw [Text.digitsValue_eq, Nat.ofDigitChars_append] at value
  have started : (!whole.isEmpty) = true := by simpa using nonempty
  have fits : Nat.ofDigitChars 10 whole 0 < mantissaBound :=
    Nat.lt_of_le_of_lt (le_ofDigitChars fraction _) (value ▸ d.mantissa_lt)
  rw [text, run_digits digits.1 fits (Nat.zero_le maxScale) fun _ => rfl, started, Bool.or_true]
  simp only [Bool.false_eq_true, if_false, Nat.add_zero]
  split
  · next none =>
      rw [List.length_eq_zero_iff.mp (length.trans none), Nat.ofDigitChars_nil] at value
      rw [value, none]
      rfl
  · have bound : 0 + (if true then fraction.length else 0) ≤ maxScale := by
      simp [length, d.scale_le]
    have read : Reading.run ⟨negative, _, 0, true, true⟩ (fraction ++ []) = _ :=
      run_digits digits.2 (value ▸ d.mantissa_lt) bound nofun
    rw [List.append_nil] at read
    rw [run_point, read, value, length]
    simp [Reading.run, Reading.finish]

theorem ofPlainText?_text (d : Decimal) :
    ofPlainText? d.text = ofParts? d.negative d.mantissa d.scale := by
  have read := fun negative => run_pointed negative d
  unfold ofPlainText? text
  rw [String.toList_append]
  cases d.negative with
  | true => exact read true
  | false =>
      have digit : ∀ c ∈ (Text.pointed d.scale d.mantissa).toList.head?, c.isDigit = true := by
        obtain ⟨whole, fraction, ⟨digits, -, -⟩, nonempty, -, text⟩ :=
          Text.pointed_toList d.scale d.mantissa
        obtain ⟨first, others, rfl⟩ := List.exists_cons_of_ne_nil nonempty
        rw [text]
        rintro c ⟨⟩
        exact List.all_eq_true.mp digits first List.mem_cons_self
      have unsigned : (if false = true then "-" else "").toList = [] := rfl
      rw [unsigned, List.nil_append]
      split
      · next first =>
          have := digit '-' (by rw [first]; rfl)
          contradiction
      · next first =>
          have := digit '+' (by rw [first]; rfl)
          contradiction
      · exact read false

/-- The decimal as it is read back: zero has no sign. -/
def readBack (d : Decimal) : Decimal := { d with negative := d.negative && d.mantissa != 0 }

theorem ofText?_text (d : Decimal) : ofText? d.text = some d.readBack := by
  rw [ofText?, ofPlainText?_text, ofParts?, ofSignedParts?, dif_pos ⟨d.mantissa_lt, d.scale_le⟩]
  rfl

theorem ofJson?_toJson (d : Decimal) : ofJson? d.toJson = some d.readBack := ofText?_text d

end SpotSettlement.Decimal
