import SpotSettlement.Time.Calendar

namespace SpotSettlement.Calendar

/-! # Days and their numbers

Years are counted from March within eras of 400 years.  A day is found from its number by its era,
its year of the era, and its day of that year.
-/

variable {day year number : Int}

/-- The days of an era before a year of it. -/
def daysBefore (year : Int) : Int := year * 365 + year / 4 - year / 100 + year / 400

/-- The year of the era in which a day of the era lies. -/
def yearOfEra (day : Int) : Int := (day - day / 1460 + day / 36524 - day / 146096) / 365

theorem isLeap_iff : isLeap year = true ↔ year % 4 = 0 ∧ (year % 100 ≠ 0 ∨ year % 400 = 0) := by
  simp [isLeap]

/-- A year from March on has the leap day of the February at its end. -/
theorem daysBefore_succ (year : Int) : daysBefore (year + 1) =
    daysBefore year + if isLeap (year + 1) then 366 else 365 := by
  unfold daysBefore
  split
  · next leap =>
      rw [isLeap_iff] at leap
      omega
  · next leap =>
      rw [isLeap_iff] at leap
      omega

theorem isLeap_era (year era : Int) : isLeap (year + era * 400) = isLeap year := by
  rw [Bool.eq_iff_iff, isLeap_iff, isLeap_iff]
  omega

/-- The first hundred years of a century have 24 leap days, but for the hundredth. -/
theorem daysBefore_century {century : Int} (start : 0 ≤ century ∧ century ≤ 3)
    (within : 0 ≤ year ∧ year ≤ 99) :
    daysBefore (100 * century + year) = 36524 * century + 365 * year + year / 4 := by
  unfold daysBefore
  omega

theorem yearOfEra_spec (low : 0 ≤ day) (high : day < 146097) :
    0 ≤ yearOfEra day ∧ yearOfEra day < 400 ∧ daysBefore (yearOfEra day) ≤ day ∧
      day < daysBefore (yearOfEra day + 1) := by
  obtain rfl | inside : day = 146096 ∨ day < 146096 := by omega
  · decide
  obtain ⟨century, rest, rfl, start, within⟩ : ∃ century rest, day = 36524 * century + rest ∧
      (0 ≤ century ∧ century ≤ 3) ∧ 0 ≤ rest ∧ rest < 36524 :=
    ⟨day / 36524, day % 36524, by omega, by omega, by omega⟩
  have centuries : (36524 * century + rest) / 36524 = century := by omega
  have eras : (36524 * century + rest) / 146096 = 0 := by omega
  have leaps : (36524 * century + rest) / 1460 = 25 * century + (24 * century + rest) / 1460 := by
    omega
  obtain ⟨passed, named⟩ : ∃ passed, passed = (24 * century + rest) / 1460 := ⟨_, rfl⟩
  obtain ⟨year, found⟩ : ∃ year, yearOfEra (36524 * century + rest) = 100 * century + year :=
    ⟨yearOfEra (36524 * century + rest) - 100 * century, by omega⟩
  rw [found]
  rw [yearOfEra, centuries, eras, leaps, ← named] at found
  have years : 0 ≤ year ∧ year ≤ 99 := by omega
  -- The leap days that have passed lie between those before the year and those after it.
  have least : year / 4 ≤ passed := by omega
  have most : passed ≤ (year + 1) / 4 := by omega
  rw [daysBefore_century start years]
  refine ⟨by omega, by omega, by omega, ?_⟩
  obtain rfl | later : year = 99 ∨ year + 1 ≤ 99 := by omega
  · unfold daysBefore
    omega
  · rw [Int.add_assoc, daysBefore_century start ⟨by omega, later⟩]
    omega

/-- The day of the year in a month counted from March, and the month of a calendar year. -/
def monthOf (month : Int) : Nat := (if month < 10 then month + 3 else month - 9).toNat

theorem monthOf_le {month : Int} (within : 0 ≤ month ∧ month ≤ 11) :
    monthOf month ≤ 2 ↔ ¬month < 10 := by
  unfold monthOf
  split <;> omega

/-- A day is found from its number by the era, the year and the day of the year, the months of which
count from March. -/
theorem ofNumber_eq (number : Int) : ∃ era year day month : Int,
    (0 ≤ year ∧ year < 400) ∧ (0 ≤ day ∧ day < if isLeap (year + 1) then 366 else 365) ∧
      (0 ≤ month ∧ month ≤ 11) ∧ month = (5 * day + 2) / 153 ∧
      number + 719468 = era * 146097 + daysBefore year + day ∧
      Day.ofNumber number = ⟨year + era * 400 + if month < 10 then 0 else 1, monthOf month,
        (day - (153 * month + 2) / 5 + 1).toNat⟩ := by
  obtain ⟨era, rest, shifted, low, high⟩ : ∃ era rest, number + 719468 = era * 146097 + rest ∧
      0 ≤ rest ∧ rest < 146097 :=
    ⟨(number + 719468) / 146097, (number + 719468) % 146097, by omega, by omega, by omega⟩
  have whole : (number + 719468).fdiv 146097 = era := by
    rw [Int.fdiv_eq_ediv_of_nonneg _ (by decide)]
    omega
  have within : number + 719468 - era * 146097 = rest := by omega
  obtain ⟨first, last, least, most⟩ := yearOfEra_spec low high
  rw [daysBefore_succ] at most
  have before : 365 * yearOfEra rest + yearOfEra rest / 4 - yearOfEra rest / 100 =
      daysBefore (yearOfEra rest) := by
    unfold daysBefore
    omega
  have year : (rest - rest / 1460 + rest / 36524 - rest / 146096) / 365 = yearOfEra rest := rfl
  simp only [Day.ofNumber, whole, within, year, before]
  obtain ⟨day, named⟩ : ∃ day, rest - daysBefore (yearOfEra rest) = day := ⟨_, rfl⟩
  rw [named]
  have days : 0 ≤ day ∧ day < if isLeap (yearOfEra rest + 1) then 366 else 365 :=
    ⟨by omega, by omega⟩
  have months : 0 ≤ (5 * day + 2) / 153 ∧ (5 * day + 2) / 153 ≤ 11 := by
    split at days <;> omega
  refine ⟨era, yearOfEra rest, day, _, ⟨first, last⟩, days, months, rfl, by omega, ?_⟩
  have early : ((if (5 * day + 2) / 153 < 10 then (5 * day + 2) / 153 + 3
      else (5 * day + 2) / 153 - 9) ≤ 2) ↔ ¬(5 * day + 2) / 153 < 10 := by
    split <;> omega
  simp only [early, ite_not]
  rfl

theorem number_monthOf {era year month day : Int} (years : 0 ≤ year ∧ year < 400)
    (months : 0 ≤ month ∧ month ≤ 11) (positive : 0 < day) :
    Day.number ⟨year + era * 400 + if month < 10 then 0 else 1, monthOf month, day.toNat⟩ =
      era * 146097 + daysBefore year + (153 * month + 2) / 5 + (day - 1) - 719468 := by
  have march : (if monthOf month ≤ 2 then (year + era * 400 + if month < 10 then 0 else 1) - 1
      else year + era * 400 + if month < 10 then 0 else 1) = year + era * 400 := by
    simp only [monthOf_le months]
    split <;> omega
  have eras : (year + era * 400).fdiv 400 = era := by
    rw [Int.fdiv_eq_ediv_of_nonneg _ (by decide)]
    omega
  have counted : ((monthOf month : Int) + 9) % 12 = month := by
    unfold monthOf
    split <;> omega
  simp only [Day.number, march, eras, counted, daysBefore]
  omega

/-- A day that is found from a number has that number. -/
theorem number_ofNumber (number : Int) : (Day.ofNumber number).number = number := by
  obtain ⟨era, year, day, month, years, days, months, named, shifted, found⟩ := ofNumber_eq number
  rw [found, number_monthOf years months (by omega)]
  omega

theorem month_ofNumber (number : Int) :
    1 ≤ (Day.ofNumber number).month ∧ (Day.ofNumber number).month ≤ 12 := by
  obtain ⟨era, year, day, month, -, -, months, -, -, found⟩ := ofNumber_eq number
  rw [found]
  simp only [monthOf]
  split <;> omega

/-- All months but February are as long as the days before the next one say. -/
theorem daysInMonth_monthOf (year : Int) {month : Int} (within : 0 ≤ month ∧ month ≤ 10) :
    (daysInMonth year (monthOf month) : Int) =
      (153 * (month + 1) + 2) / 5 - (153 * month + 2) / 5 := by
  have months : month = 0 ∨ month = 1 ∨ month = 2 ∨ month = 3 ∨ month = 4 ∨ month = 5 ∨
      month = 6 ∨ month = 7 ∨ month = 8 ∨ month = 9 ∨ month = 10 := by omega
  rcases months with rfl | rfl | rfl | rfl | rfl | rfl | rfl | rfl | rfl | rfl | rfl <;> rfl

theorem daysInMonth_february (year : Int) :
    daysInMonth year (monthOf 11) = if isLeap year then 29 else 28 := rfl

theorem day_ofNumber (number : Int) : 1 ≤ (Day.ofNumber number).day ∧
    (Day.ofNumber number).day ≤
      daysInMonth (Day.ofNumber number).year (Day.ofNumber number).month := by
  obtain ⟨era, year, day, month, years, days, months, named, -, found⟩ := ofNumber_eq number
  rw [found]
  dsimp only
  refine ⟨by omega, ?_⟩
  obtain rfl | other : month = 11 ∨ month ≤ 10 := by omega
  · rw [if_neg (by decide), daysInMonth_february, Int.add_right_comm, isLeap_era]
    split at days
    · next leap =>
        rw [if_pos leap]
        omega
    · next common =>
        rw [if_neg common]
        omega
  · have length := daysInMonth_monthOf (year + era * 400 + if month < 10 then 0 else 1)
      ⟨months.1, other⟩
    omega

/-- The calendar has the years of all days between the first and the last moment. -/
theorem hasYear_ofNumber (first : -96465292 ≤ number) (last : number ≤ 95026236) :
    hasYear (Day.ofNumber number).year = true := by
  obtain ⟨era, year, day, month, years, days, -, named, shifted, found⟩ := ofNumber_eq number
  rw [found]
  have length : day ≤ 365 := by
    split at days <;> omega
  unfold daysBefore at shifted
  simp only [hasYear, Bool.and_eq_true, decide_eq_true_eq]
  obtain early | late : month < 10 ∨ 10 ≤ month := by omega
  · rw [if_pos early]
    omega
  · rw [if_neg (by omega)]
    -- The last moment lies in the last era of the calendar.
    obtain earlier | rfl : era ≤ 654 ∨ era = 655 := by omega
    · omega
    · obtain before | rfl | after : year < 142 ∨ year = 142 ∨ 142 < year := by omega
      · omega
      · omega
      · omega

end SpotSettlement.Calendar
