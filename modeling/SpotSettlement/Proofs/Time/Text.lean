import SpotSettlement.Proofs.Text.Digits
import SpotSettlement.Proofs.Time.Calendar

namespace SpotSettlement

/-! # Reading back moments

A moment is read back from its text, part by part: each part is read up to where the next begins.
-/

open Text

theorem Text.isBlankChar_of_isDigit {c : Char} (digit : c.isDigit = true) :
    isBlankChar c = false := by
  rw [Char.isDigit_iff_toNat] at digit
  have low : 48 ≤ c.toNat := digit.1
  have high : c.toNat ≤ 57 := digit.2
  simp only [isBlankChar, blankRanges, List.any_eq_false, List.mem_cons, List.not_mem_nil, or_false]
  rintro range (rfl | rfl | rfl | rfl | rfl | rfl | rfl | rfl | rfl | rfl) <;> simp <;> omega

namespace Calendar

variable {width value : Nat} {row rest : List Char}

theorem skipBlanks_writes (writes : Writes row value) : skipBlanks (row ++ rest) = row ++ rest := by
  obtain ⟨first, others, rfl, digit⟩ := writes.cons
  rw [List.cons_append, skipBlanks,
    List.dropWhile_cons_of_neg (by simp [isBlankChar_of_isDigit digit])]

/-- A number that fills its places is read up to their end. -/
theorem number?_writes (writes : Writes row value) (length : row.length = width) :
    number? width (row ++ rest) = some (value, rest) := by
  have taken : (row ++ rest).take width = row := length ▸ List.take_left
  simp only [number?, skipBlanks_writes writes, taken, takeWhile_isDigit writes.digits,
    writes.isEmpty, Bool.false_eq_true, if_false, writes.value_eq, List.drop_left]

theorem unbounded?_writes (writes : Writes row value)
    (ends : ∀ c ∈ rest.head?, c.isDigit = false) :
    year?.unbounded? (row ++ rest) = some (value, rest) := by
  simp only [year?.unbounded?, splitDigits_append writes.digits ends, writes.isEmpty,
    Bool.false_eq_true, if_false, writes.value_eq]

/-- A year without a sign has four digits. -/
theorem year?_writes (writes : Writes row value) (length : row.length = 4) :
    year? (row ++ rest) = some ((value : Int), rest) := by
  obtain ⟨first, others, rfl, digit⟩ := writes.cons
  unfold year?
  rw [skipBlanks_writes writes]
  split
  · next same =>
      injection same with same
      rw [same] at digit
      contradiction
  · next same =>
      injection same with same
      rw [same] at digit
      contradiction
  · rw [number?_writes writes length]
    rfl

theorem fraction?_writes (writes : Writes row value) (places : row.length ≤ 9)
    (ends : ∀ c ∈ rest.head?, c.isDigit = false) :
    fraction? ('.' :: (row ++ rest)) = some (value * 10 ^ (9 - row.length), rest) := by
  simp only [fraction?, splitDigits_append writes.digits ends, writes.isEmpty, Bool.false_eq_true,
    if_false, List.take_of_length_le places, digitsValue_append_zeros, writes.value_eq]

/-- A year is read whether or not it has a sign. -/
theorem year?_yearText (year : Int) (ends : ∀ c ∈ rest.head?, c.isDigit = false) :
    year? ((yearText year).toList ++ rest) = some (year, rest) := by
  unfold yearText
  split
  · next plain =>
      have small : year.toNat < 10 ^ 4 := by omega
      rw [year?_writes (padded_writes 4 _) (length_padded (by decide) small),
        Int.toNat_of_nonneg plain.1]
  · have read := unbounded?_writes (padded_writes 4 year.natAbs) ends
    rw [String.toList_append, List.append_assoc]
    generalize (padded 4 year.natAbs).toList = row at *
    split
    · change (year?.unbounded? (row ++ rest)).map _ = _
      rw [read]
      simp only [Option.map_some, Option.some.injEq, Prod.mk.injEq, and_true]
      omega
    · change (year?.unbounded? (row ++ rest)).map _ = _
      rw [read]
      simp only [Option.map_some, Option.some.injEq, Prod.mk.injEq, and_true]
      omega

/-- A fraction is read whatever the count of its digits. -/
theorem fraction?_fractionText (bound : value < 10 ^ (9 : Nat)) :
    fraction? ((fractionText value).toList ++ ['Z']) = some (value, ['Z']) := by
  have ends : ∀ c ∈ ['Z'].head?, c.isDigit = false := by
    rintro c ⟨⟩
    rfl
  have read : ∀ width part, 0 < width → width ≤ 9 → part < 10 ^ width →
      part * 10 ^ (9 - width) = value →
      fraction? (("." ++ padded width part).toList ++ ['Z']) = some (value, ['Z']) := by
    intro width part positive places small same
    have length := length_padded positive small
    have digits := fraction?_writes (padded_writes width part)
      (Nat.le_trans (Nat.le_of_eq length) places) ends
    have point : ".".toList = ['.'] := rfl
    rw [length, same] at digits
    rw [String.toList_append, List.append_assoc, point, List.singleton_append, digits]
  unfold fractionText
  split
  · next none =>
      rw [none]
      rfl
  split
  · exact read 3 _ (by decide) (by decide) (by omega) (by omega)
  split
  · exact read 6 _ (by decide) (by decide) (by omega) (by omega)
  · exact read 9 _ (by decide) (by decide) bound (by omega)

theorem bind_read {α β : Type} {read : Option α} {value : α} {next : α → Option β}
    (done : read = some value) : (read >>= next) = next value := by
  rw [done]
  rfl

theorem mark?_self {c : Char} (visible : isBlankChar c = false) :
    mark? c (c :: rest) = some rest := by
  simp [mark?, skipBlanks, visible]

theorem number?_padded (bound : value < 100) :
    number? 2 ((padded 2 value).toList ++ rest) = some (value, rest) :=
  number?_writes (padded_writes 2 value) (length_padded (by decide) bound)

end Calendar

open Calendar

namespace Instant

/-- The parts of a text are read one after the other, and make a moment if the calendar and the
clock have them. -/
theorem ofText?_parts (year : Int) {month day hour minute second nanoseconds : Nat}
    (date : month < 100 ∧ day < 100) (time : hour < 100 ∧ minute < 100 ∧ second < 100)
    (fraction : nanoseconds < 10 ^ (9 : Nat)) :
    ofText? (yearText year ++ "-" ++ padded 2 month ++ "-" ++ padded 2 day ++ "T" ++
      padded 2 hour ++ ":" ++ padded 2 minute ++ ":" ++ padded 2 second ++
        fractionText nanoseconds ++ "Z") =
      if hasYear year ∧ 1 ≤ month ∧ month ≤ 12 ∧ 1 ≤ day ∧ day ≤ daysInMonth year month ∧
          hour < 24 ∧ minute < 60 ∧ second ≤ 60 then
        let counted := (Day.number ⟨year, month, day⟩ * 86400 +
          (hour * 3600 + minute * 60 + second : Nat)) * 1000000000 + nanoseconds
        let t : Instant := if second = 60 then .ofLeap counted else { nanoseconds := counted }
        if t.inRange then some t else none
      else none := by
  have dash : "-".toList = ['-'] := rfl
  have colon : ":".toList = [':'] := rfl
  have letter : "T".toList = ['T'] := rfl
  have zulu : "Z".toList = ['Z'] := rfl
  have ends : ∀ rest : List Char, ∀ c ∈ ('-' :: rest).head?, c.isDigit = false := by
    rintro rest c ⟨⟩
    rfl
  have offset : offset? (skipBlanks ['Z']) = some (0, []) := rfl
  unfold ofText?
  simp only [String.toList_append, dash, colon, letter, zulu, List.append_assoc,
    List.cons_append, List.nil_append]
  -- One step for each part of the text, in the order in which they stand there.
  refine (bind_read (year?_yearText year (ends _))).trans ?_
  refine (bind_read (mark?_self (by decide))).trans ?_
  refine (bind_read (number?_padded date.1)).trans ?_
  refine (bind_read (mark?_self (by decide))).trans ?_
  refine (bind_read (number?_padded date.2)).trans ?_
  refine (bind_read rfl).trans ?_
  refine (bind_read (number?_padded time.1)).trans ?_
  refine (bind_read (mark?_self (by decide))).trans ?_
  refine (bind_read (number?_padded time.2.1)).trans ?_
  refine (bind_read (mark?_self (by decide))).trans ?_
  refine (bind_read (number?_padded time.2.2)).trans ?_
  refine (bind_read (fraction?_fractionText fraction)).trans ?_
  refine (bind_read offset).trans ?_
  simp only [List.all_nil, true_and, Int.sub_zero]

/-- What the count of a moment told as a leap second, or not, makes of a moment. -/
theorem tell (t : Instant) :
    (if t.leap then ofLeap t.nanoseconds else { nanoseconds := t.nanoseconds }) = t := by
  obtain ⟨nanoseconds, leap, starts⟩ := t
  cases leap with
  | true => exact dif_pos (starts rfl)
  | false => rfl

/-- A moment that the calendar has is read back from its text. -/
theorem ofText?_text {t : Instant} (within : t.inRange = true) : ofText? t.text = some t := by
  have bounds : -8334601228800000000000 ≤ t.counted ∧ t.counted ≤ 8210266876799999999999 :=
    of_decide_eq_true within
  obtain ⟨seconds, named⟩ : ∃ seconds, seconds = t.counted.fdiv 1000000000 := ⟨_, rfl⟩
  obtain ⟨day, days⟩ : ∃ day, day = seconds.fdiv 86400 := ⟨_, rfl⟩
  obtain ⟨second, counts⟩ : ∃ second, second = (seconds - day * 86400).toNat := ⟨_, rfl⟩
  obtain ⟨nanoseconds, fraction⟩ : ∃ nanoseconds,
    nanoseconds = (t.counted - seconds * 1000000000).toNat := ⟨_, rfl⟩
  simp only [text, ← named, ← days, ← counts, ← fraction]
  rw [Int.fdiv_eq_ediv_of_nonneg _ (by decide)] at named days
  have months := month_ofNumber day
  have monthDays := day_ofNumber day
  have short : daysInMonth (Day.ofNumber day).year (Day.ofNumber day).month < 100 := by
    unfold daysInMonth
    split
    · split <;> decide
    · split <;> decide
  have year : hasYear (Day.ofNumber day).year = true := hasYear_ofNumber (by omega) (by omega)
  rw [ofText?_parts _ ⟨by omega, by omega⟩ ⟨by omega, by omega, by split <;> omega⟩ (by omega),
    if_pos ⟨year, months.1, months.2, monthDays.1, monthDays.2, by omega, by omega,
      by split <;> omega⟩]
  have number : Day.number ⟨(Day.ofNumber day).year, (Day.ofNumber day).month,
      (Day.ofNumber day).day⟩ = day := number_ofNumber day
  have counted : t.counted = t.nanoseconds - if t.leap then 1000000000 else 0 := rfl
  -- The second before the start of a minute is its fifty-ninth, so a leap second is its sixtieth.
  have last : (second % 60 + if t.leap = true then 1 else 0) = 60 ↔ t.leap = true := by
    by_cases leap : t.leap = true
    · have starts := t.leap_starts_minute leap
      rw [Int.fdiv_eq_ediv_of_nonneg _ (by decide)] at starts
      rw [if_pos leap] at counted ⊢
      exact iff_of_true (by omega) leap
    · rw [if_neg leap]
      exact iff_of_false (by omega) leap
  have told : (day * 86400 + (second / 3600 * 3600 + second / 60 % 60 * 60 +
      (second % 60 + if t.leap = true then 1 else 0) : Nat)) * 1000000000 + (nanoseconds : Int) =
        t.nanoseconds := by
    split at counted
    · next leap =>
        rw [if_pos leap]
        omega
    · next plain =>
        rw [if_neg plain]
        omega
  simp only [number, last, told, tell, within, if_true]

end Instant

end SpotSettlement
