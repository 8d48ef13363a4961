import UsageReports.Calendar.MonthText

/-!
# Dates

A date is a month and a day in it. `Date.dayNumber` counts days from 1970-01-01, and
`Date.ofDayNumber` finds the date again.
-/

namespace UsageReports

/-- A date of the proleptic Gregorian calendar. -/
structure Date where
  month : Month
  day : Nat
  one_le : 1 ≤ day
  le_length : day ≤ month.length

instance : DecidableEq Date := fun a b =>
  decidable_of_iff (a.month = b.month ∧ a.day = b.day) (by cases a; cases b; simp)

/-- The first day of a month. -/
def Month.opening (m : Month) : Date := ⟨m, 1, Nat.zero_lt_one, m.one_le_length⟩

/-- The last day of a month. -/
def Month.closing (m : Month) : Date := ⟨m, m.length, m.one_le_length, Nat.le_refl _⟩

namespace Date

instance : Inhabited Date := ⟨Month.opening default⟩

/-- Earlier month, or the same month and an earlier day. -/
instance : LT Date := ⟨fun a b => a.month < b.month ∨ a.month = b.month ∧ a.day < b.day⟩

/-- Earlier month, or the same month and no later day. -/
instance : LE Date := ⟨fun a b => a.month < b.month ∨ a.month = b.month ∧ a.day ≤ b.day⟩

instance (a b : Date) : Decidable (a < b) :=
  inferInstanceAs (Decidable (a.month < b.month ∨ a.month = b.month ∧ a.day < b.day))

instance (a b : Date) : Decidable (a ≤ b) :=
  inferInstanceAs (Decidable (a.month < b.month ∨ a.month = b.month ∧ a.day ≤ b.day))

/-- The first date of the calendar. -/
def earliest : Date := (Month.january firstYear).opening

/-- The last date of the calendar. -/
def latest : Date := (Month.january lastYear |>.addMonths 11).closing

/-- Whether the calendar reaches a date. -/
def InCalendar (d : Date) : Prop := firstYear ≤ d.month.year ∧ d.month.year ≤ lastYear

instance (d : Date) : Decidable d.InCalendar :=
  inferInstanceAs (Decidable (_ ∧ _))

/-- The day of a month, where there is such a day in the calendar. -/
def ofMonth? (m : Month) (day : Nat) : Option Date :=
  if h : (1 ≤ day ∧ day ≤ m.length) ∧ firstYear ≤ m.year ∧ m.year ≤ lastYear then
    some ⟨m, day, h.1.1, h.1.2⟩
  else none

/-- The date before `d`; none before the first one of the calendar. -/
def pred? (d : Date) : Option Date :=
  if h : 1 < d.day then
    some ⟨d.month, d.day - 1, by omega, by have := d.le_length; omega⟩
  else if d.month.year ≤ firstYear ∧ d.month.number = 1 then none
  else some d.month.pred.closing

/-- Days before the first day of a year, counted from the first day of the year 0. -/
def daysBeforeYear (year : Int) : Int :=
  let y := year - 1
  365 * year + y / 4 - y / 100 + y / 400 + 1

/-- Days of a year before the first day of its month `number`. -/
def daysBeforeMonth (year : Int) : Nat → Nat
  | 0 => 0
  | 1 => 0
  | n + 2 => daysBeforeMonth year (n + 1) +
      (if n + 1 = 2 then (if Month.isLeapYear year then 29 else 28)
       else if n + 1 = 4 ∨ n + 1 = 6 ∨ n + 1 = 9 ∨ n + 1 = 11 then 30 else 31)

/-- The number of the first day of 1970 in the count from the year 0. -/
def epochDay : Int := daysBeforeYear 1970

/-- Days since 1970-01-01. -/
def dayNumber (d : Date) : Int :=
  daysBeforeYear d.month.year + daysBeforeMonth d.month.year d.month.number + (d.day - 1)
    - epochDay

/-- The year of a day in the count from the year 0: a first guess from the mean length of a year,
put right by at most one. -/
def yearOfDay (n : Int) : Int :=
  let guess := n * 400 / 146097
  if n < daysBeforeYear guess then guess - 1
  else if daysBeforeYear (guess + 1) ≤ n then guess + 1
  else guess

/-- The date `rest` days after the first day of `m`; days beyond the month go on in the next
month, for at most `months` months. -/
def advance (m : Month) (rest : Nat) : Nat → Date
  | 0 => m.opening
  | months + 1 =>
    if h : rest < m.length then ⟨m, rest + 1, by omega, by omega⟩
    else advance m.succ (rest - m.length) months

/-- The date `n` days after 1970-01-01. -/
def ofDayNumber (n : Int) : Date :=
  let day := n + epochDay
  let year := yearOfDay day
  advance (Month.january year) (day - daysBeforeYear year).toNat 12

/-- A year as it is written in a date: four digits, or a sign and at least four. -/
def yearChars (year : Int) : List Char :=
  if 0 ≤ year ∧ year ≤ 9999 then paddedDigits 4 year.natAbs
  else (if year < 0 then '-' else '+') :: paddedDigits 4 year.natAbs

/-- The text of a date, `YYYY-MM-DD`. -/
def chars (d : Date) : List Char :=
  yearChars d.month.year ++ '-' :: paddedDigits 2 d.month.number ++ '-' :: paddedDigits 2 d.day

/-- The text of a date. -/
def text (d : Date) : String := String.ofList d.chars

end Date

namespace Month

/-- The first day of a month; the first date of the calendar where it does not reach the month. -/
def firstDay (m : Month) : Date := (Date.ofMonth? m 1).getD Date.earliest

/-- The day before the first day of the next month; the last date of the calendar where there is
none. -/
def lastDay (m : Month) : Date := m.succ.firstDay.pred?.getD Date.latest

/-- The number of days in a month, read off its last day. -/
def days (m : Month) : Nat := m.lastDay.day

/-- The last month that was over before `today`. -/
def lastCompleted (today : Date) : Month := today.month.pred

end Month

end UsageReports
