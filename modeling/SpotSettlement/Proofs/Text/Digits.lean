import SpotSettlement.Text.Digits

namespace SpotSettlement.Text

/-! # Runs of characters and rows of digits

A run of characters of one kind ends before the first character that is not of it.  A number is read
back from the digits that write it, whether or not they are filled up with zeros.
-/

section Runs

variable {kind : Char → Bool} {stop : Char} {run rest characters : List Char}

theorem takeWhile_run (all : ∀ c ∈ run, kind c = true) (stops : kind stop = false) :
    (run ++ stop :: rest).takeWhile kind = run := by
  rw [List.takeWhile_append_of_pos all, List.takeWhile_cons_of_neg (by simp [stops]),
    List.append_nil]

theorem dropWhile_run (all : ∀ c ∈ run, kind c = true) (stops : kind stop = false) :
    (run ++ stop :: rest).dropWhile kind = stop :: rest := by
  rw [List.dropWhile_append_of_pos all, List.dropWhile_cons_of_neg (by simp [stops])]

theorem run_of_dropWhile (ends : characters.dropWhile kind = stop :: rest) :
    (∀ c ∈ characters.takeWhile kind, kind c = true) ∧ kind stop = false ∧
      characters = characters.takeWhile kind ++ stop :: rest := by
  refine ⟨List.all_eq_true.mp List.all_takeWhile, ?_, ?_⟩
  · have stops := List.head?_dropWhile_not kind characters
    rwa [ends] at stops
  · rw [← ends, List.takeWhile_append_dropWhile]

end Runs

variable {row rest : List Char} {width value places : Nat}

theorem digitsValue_eq (row : List Char) : digitsValue row = Nat.ofDigitChars 10 row 0 := by
  simp only [digitsValue, Nat.ofDigitChars_eq_foldl, Nat.mul_comm]
  rfl

theorem digitsValue_append_zeros (row : List Char) (count : Nat) :
    digitsValue (row ++ List.replicate count '0') = digitsValue row * 10 ^ count := by
  induction count with
  | zero => simp
  | succ count ih =>
      rw [List.replicate_succ', ← List.append_assoc, digitsValue, List.foldl_append]
      change digitsValue (row ++ List.replicate count '0') * 10 + 0 = _
      rw [ih, Nat.pow_succ, Nat.mul_assoc, Nat.add_zero]

/-- The row has digits only, at least one, and writes the number. -/
structure Writes (row : List Char) (value : Nat) : Prop where
  digits : row.all Char.isDigit = true
  nonempty : row ≠ []
  value_eq : digitsValue row = value

theorem toDigits_writes (value : Nat) : Writes (Nat.toDigits 10 value) value where
  digits := List.all_eq_true.mpr fun _ member =>
    Nat.isDigit_of_mem_toDigits (by decide) (by decide) member
  nonempty := Nat.toDigits_ne_nil
  value_eq := by rw [digitsValue_eq, Nat.ofDigitChars_ten_toDigits]

theorem toString_writes (value : Nat) : Writes (toString value).toList value := by
  rw [Nat.toString_eq_ofList_toDigits, String.toList_ofList]
  exact toDigits_writes value

theorem padded_toList (width value : Nat) : (padded width value).toList =
    List.replicate (width - (Nat.toDigits 10 value).length) '0' ++ Nat.toDigits 10 value := by
  rw [padded, String.toList_ofList, Nat.toString_eq_ofList_toDigits, String.toList_ofList]

theorem padded_writes (width value : Nat) : Writes (padded width value).toList value where
  digits := by
    rw [padded_toList, List.all_append, (toDigits_writes value).digits, Bool.and_true,
      List.all_replicate]
    split <;> rfl
  nonempty := by
    rw [padded_toList]
    exact List.append_ne_nil_of_right_ne_nil _ Nat.toDigits_ne_nil
  value_eq := by
    have zeros : ∀ count, (List.replicate count '0').foldl
        (fun value c => value * 10 + (c.toNat - 48)) 0 = 0 := by
      intro count
      induction count with
      | zero => rfl
      | succ count ih => exact ih
    rw [padded_toList, digitsValue, List.foldl_append, zeros]
    exact (toDigits_writes value).value_eq

theorem le_length_padded (width value : Nat) : width ≤ (padded width value).toList.length := by
  rw [padded_toList, List.length_append, List.length_replicate]
  omega

theorem length_padded (positive : 0 < width) (bound : value < 10 ^ width) :
    (padded width value).toList.length = width := by
  have fits := (Nat.length_toDigits_le_iff (by decide) positive).mpr bound
  rw [padded_toList, List.length_append, List.length_replicate]
  omega

/-- A row of digits ends where something else begins. -/
theorem splitDigits_append (digits : row.all Char.isDigit = true)
    (ends : ∀ c ∈ rest.head?, c.isDigit = false) : splitDigits (row ++ rest) = (row, rest) := by
  have none : rest.takeWhile Char.isDigit = [] ∧ rest.dropWhile Char.isDigit = rest := by
    cases rest with
    | nil => exact ⟨rfl, rfl⟩
    | cons c rest =>
        have other := ends c rfl
        simp [other]
  rw [List.all_eq_true] at digits
  rw [splitDigits, List.takeWhile_append_of_pos digits, List.dropWhile_append_of_pos digits, none.1,
    none.2, List.append_nil]

theorem takeWhile_isDigit (digits : row.all Char.isDigit = true) :
    row.takeWhile Char.isDigit = row := by
  have split : splitDigits (row ++ []) = (row, []) := splitDigits_append digits (by simp)
  rw [List.append_nil] at split
  exact congrArg Prod.fst split

theorem Writes.isEmpty (writes : Writes row value) : row.isEmpty = false := by
  simpa using writes.nonempty

theorem Writes.cons (writes : Writes row value) :
    ∃ first others, row = first :: others ∧ first.isDigit = true := by
  obtain ⟨first, others, rfl⟩ := List.exists_cons_of_ne_nil writes.nonempty
  have digits := writes.digits
  rw [List.all_cons, Bool.and_eq_true] at digits
  exact ⟨first, others, rfl, digits.1⟩

/-- The digits on both sides of the point are those of the number, with at least one before it. -/
theorem pointed_toList (places value : Nat) : ∃ whole fraction,
    Writes (whole ++ fraction) value ∧ whole ≠ [] ∧ fraction.length = places ∧
      (pointed places value).toList = whole ++ if places = 0 then [] else '.' :: fraction := by
  have length := le_length_padded (places + 1) value
  have writes := padded_writes (places + 1) value
  rw [← List.take_append_drop ((padded (places + 1) value).toList.length - places)
    (padded (places + 1) value).toList] at writes
  refine ⟨_, _, writes, ?_, ?_, ?_⟩
  · rw [ne_eq, ← List.length_eq_zero_iff, List.length_take]
    omega
  · rw [List.length_drop]
    omega
  · simp only [pointed]
    split
    · rw [String.toList_ofList, List.append_nil]
    · simp

end SpotSettlement.Text
