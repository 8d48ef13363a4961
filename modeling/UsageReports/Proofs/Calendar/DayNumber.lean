import UsageReports.Calendar.Date

/-!
# Dates and their numbers

The months follow each other without a gap: the first day of a month comes as many days after the
first day of the month before it as that one is long. From it, a date of an earlier month has the
smaller number, and the date found for a number has that number.
-/

namespace UsageReports

namespace Date

/-- A year has 365 days, or 366 where it is a leap year. -/
theorem daysBeforeYear_succ (year : Int) :
    daysBeforeYear (year + 1) =
      daysBeforeYear year + if Month.isLeapYear year then 366 else 365 := by
  have hleap : Month.isLeapYear year = true ↔
      year % 4 = 0 ∧ (year % 100 ≠ 0 ∨ year % 400 = 0) := by
    simp [Month.isLeapYear]
  simp only [daysBeforeYear]
  split
  · next h => have := hleap.mp h; omega
  · next h => have := mt hleap.mpr h; omega

/-- The year of a day is the one in which it lies. -/
theorem yearOfDay_spec (n : Int) :
    daysBeforeYear (yearOfDay n) ≤ n ∧ n < daysBeforeYear (yearOfDay n + 1) := by
  have hlow : 146097 * (n * 400 / 146097) ≤ n * 400 := by omega
  have hhigh : n * 400 < 146097 * (n * 400 / 146097) + 146097 := by omega
  simp only [yearOfDay]
  -- The mean year is off by less than two days, so that the guess is off by at most one year.
  generalize n * 400 / 146097 = guess at hlow hhigh
  split
  · next h =>
    rw [Int.sub_add_cancel]
    refine ⟨?_, h⟩
    simp only [daysBeforeYear]
    omega
  · next h =>
    split
    · next h' =>
      refine ⟨h', ?_⟩
      simp only [daysBeforeYear]
      omega
    · next h' => exact ⟨Int.not_lt.mp h, Int.not_le.mp h'⟩

/-- Days before the month after `m` in its year are those before `m` and those of `m`. -/
theorem daysBeforeMonth_succ (m : Month) :
    daysBeforeMonth m.year (m.number + 1) = daysBeforeMonth m.year m.number + m.length := by
  have hone := m.one_le
  obtain ⟨n, hn⟩ : ∃ n, m.number = n + 1 := ⟨m.number - 1, by omega⟩
  rw [Month.length, hn]
  rfl

/-- The months of a year make up the year. -/
theorem daysBeforeMonth_thirteen (year : Int) :
    daysBeforeMonth year 13 = if Month.isLeapYear year then 366 else 365 := by
  cases h : Month.isLeapYear year <;> simp [daysBeforeMonth, h]

theorem dayNumber_eq (d : Date) : d.dayNumber = d.month.opening.dayNumber + (d.day - 1) := by
  simp only [dayNumber, Month.opening]
  omega

end Date

namespace Month

/-- The first day of the next month comes after all days of a month. -/
theorem dayNumber_opening_succ (m : Month) :
    m.succ.opening.dayNumber = m.opening.dayNumber + m.length := by
  have hmonth := Date.daysBeforeMonth_succ m
  have hyear := Date.daysBeforeYear_succ m.year
  have hfull := Date.daysBeforeMonth_thirteen m.year
  by_cases h : m.number = 12
  · have hsucc : m.succ = january (m.year + 1) := by simp only [succ, dif_pos h, january]
    have hdays : Date.daysBeforeMonth m.year m.number + m.length =
        if isLeapYear m.year then 366 else 365 := by
      rw [← hmonth, h, hfull]
    simp only [hsucc, Date.dayNumber, opening, january, Date.daysBeforeMonth, hyear]
    cases hleap : isLeapYear m.year <;> simp only [hleap] at hdays ⊢ <;> grind
  · simp only [Date.dayNumber, opening, succ, dif_neg h]
    omega

/-- All days of a month come before the first day of a later one. -/
theorem dayNumber_opening_add_length_le {a b : Month} (h : a < b) :
    a.opening.dayNumber + a.length ≤ b.opening.dayNumber := by
  obtain ⟨n, hn⟩ : ∃ n : Nat, b.index = a.index + n + 1 :=
    ⟨(b.index - a.index - 1).toNat, by have := lt_iff_index_lt.mp h; omega⟩
  clear h
  induction n generalizing b with
  | zero =>
    have he : b = a.succ := eq_of_index_eq (by rw [index_succ]; omega)
    exact Int.le_of_eq (by rw [he, dayNumber_opening_succ])
  | succ n ih =>
    have hpred := ih (b := b.pred) (by rw [index_pred]; omega)
    have he : b = b.pred.succ := eq_of_index_eq (by rw [index_succ, index_pred]; omega)
    rw [he, dayNumber_opening_succ]
    omega

end Month

namespace Date

/-- A date of an earlier month has the smaller number. -/
theorem dayNumber_lt_of_month_lt {a b : Date} (h : a.month < b.month) :
    a.dayNumber < b.dayNumber := by
  have hle := Month.dayNumber_opening_add_length_le h
  have ha := a.le_length
  have hb := b.one_le
  rw [dayNumber_eq a, dayNumber_eq b]
  omega

theorem dayNumber_advance_of_lt {m : Month} {rest : Nat} (h : rest < m.length) (months : Nat) :
    (advance m rest (months + 1)).dayNumber = m.opening.dayNumber + rest := by
  have hmonth : (advance m rest (months + 1)).month = m := congrArg month (dif_pos h)
  have hday : (advance m rest (months + 1)).day = rest + 1 := congrArg day (dif_pos h)
  rw [dayNumber_eq, hmonth, hday]
  push_cast
  omega

theorem advance_of_le {m : Month} {rest : Nat} (h : m.length ≤ rest) (months : Nat) :
    advance m rest (months + 1) = advance m.succ (rest - m.length) months :=
  dif_neg (Nat.not_lt.mpr h)

/-- Going on from the first day of a month, within the months that may be gone through. -/
theorem dayNumber_advance (m : Month) (rest months : Nat)
    (h : m.opening.dayNumber + rest < (m.addMonths months).opening.dayNumber) :
    (advance m rest months).dayNumber = m.opening.dayNumber + rest := by
  induction months generalizing m rest with
  | zero =>
    have he : m.addMonths (0 : Nat) = m := Month.eq_of_index_eq (by simp)
    rw [he] at h
    omega
  | succ months ih =>
    by_cases hlong : rest < m.length
    · exact dayNumber_advance_of_lt hlong months
    · have he : m.succ.addMonths months = m.addMonths (months + 1 : Nat) :=
        Month.eq_of_index_eq (by simp only [Month.index_addMonths, Month.index_succ]; omega)
      have hsucc := Month.dayNumber_opening_succ m
      rw [advance_of_le (Nat.not_lt.mp hlong), ih m.succ (rest - m.length) (by rw [he]; omega)]
      omega

/-- The date of a number has that number. -/
theorem dayNumber_ofDayNumber (n : Int) : (ofDayNumber n).dayNumber = n := by
  obtain ⟨hlow, hhigh⟩ := yearOfDay_spec (n + epochDay)
  have hopening : ∀ year,
      (Month.january year).opening.dayNumber = daysBeforeYear year - epochDay := by
    intro year
    simp [dayNumber, Month.opening, Month.january, daysBeforeMonth]
  simp only [ofDayNumber]
  generalize yearOfDay (n + epochDay) = year at hlow hhigh ⊢
  have hnext : (Month.january year).addMonths 12 = .january (year + 1) := by
    refine Month.eq_of_index_eq ?_
    rw [Month.index_addMonths]
    simp only [Month.index, Month.january]
    omega
  rw [dayNumber_advance, hopening]
  · omega
  · rw [show ((12 : Nat) : Int) = 12 from rfl, hnext, hopening, hopening]
    omega

theorem eq_iff {a b : Date} : a = b ↔ a.month = b.month ∧ a.day = b.day := by
  cases a
  cases b
  simp

/-- Different dates have different numbers. -/
theorem dayNumber_inj {a b : Date} (h : a.dayNumber = b.dayNumber) : a = b := by
  have hmonth : a.month = b.month := by
    rcases Int.lt_trichotomy a.month.index b.month.index with hlt | heq | hgt
    · have := dayNumber_lt_of_month_lt (Month.lt_iff_index_lt.mpr hlt)
      omega
    · exact Month.eq_of_index_eq heq
    · have := dayNumber_lt_of_month_lt (Month.lt_iff_index_lt.mpr hgt)
      omega
  rw [dayNumber_eq a, dayNumber_eq b, hmonth] at h
  exact eq_iff.mpr ⟨hmonth, by omega⟩

/-- A date is found again by its number. -/
theorem ofDayNumber_dayNumber (d : Date) : ofDayNumber d.dayNumber = d :=
  dayNumber_inj (dayNumber_ofDayNumber _)

end Date

end UsageReports
