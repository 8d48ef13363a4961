import Mathlib.Data.Set.Card
import Mathlib.Order.Interval.Finset.Nat
import UsageReports.Proofs.Calendar.MonthGrammar
import UsageReports.Proofs.Trigger.NextFire

/-!
# Months and their days

Each date of the calendar lies between the first and the last day of its own month and of no other,
and the last day of a month is the day before the first day of the next one. The calendar ends with
the last day of its last month. The last month completed on a day is the greatest that is over.
-/

namespace UsageReports

namespace Date

variable {a b d : Date}

theorem le_def : a ≤ b ↔ a.month < b.month ∨ a.month = b.month ∧ a.day ≤ b.day := Iff.rfl

theorem lt_def : a < b ↔ a.month < b.month ∨ a.month = b.month ∧ a.day < b.day := Iff.rfl

/-- The order of dates is the order of their numbers. -/
theorem lt_iff_dayNumber_lt : a < b ↔ a.dayNumber < b.dayNumber := by
  rcases Int.lt_trichotomy a.month.index b.month.index with h | h | h
  · have hlt := Month.lt_iff_index_lt.mpr h
    exact ⟨fun _ ↦ dayNumber_lt_of_month_lt hlt, fun _ ↦ .inl hlt⟩
  · have heq := Month.eq_of_index_eq h
    have hnot : ¬ b.month < b.month := by
      rw [Month.lt_iff_index_lt]
      omega
    rw [lt_def, dayNumber_eq a, dayNumber_eq b, heq]
    simp only [hnot, false_or, true_and]
    omega
  · have hgt := dayNumber_lt_of_month_lt (Month.lt_iff_index_lt.mpr h)
    have hne : a.month ≠ b.month := fun he ↦ by simp [he] at h
    simp only [lt_def, Month.lt_iff_index_lt, hne, false_and, or_false]
    omega

theorem le_iff_dayNumber_le : a ≤ b ↔ a.dayNumber ≤ b.dayNumber := by
  have hle : a ≤ b ↔ a < b ∨ a = b := by
    rw [le_def, lt_def, eq_iff, Nat.le_iff_lt_or_eq]
    tauto
  rw [hle, lt_iff_dayNumber_lt, Int.le_iff_lt_or_eq]
  exact or_congr_right ⟨congrArg dayNumber, dayNumber_inj⟩

theorem month_latest : latest.month = (Month.january lastYear).addMonths 11 := rfl

/-- No date of the calendar comes after the last one. -/
theorem le_latest (h : d.InCalendar) : d ≤ latest := by
  have hnumber := d.month.le_twelve
  have hindex : latest.month.index = lastYear * 12 + 11 := by
    rw [month_latest, Month.index_addMonths]
    rfl
  have hle : d.month.index ≤ latest.month.index := by
    rw [hindex, Month.index]
    have := h.2
    omega
  rcases Int.le_iff_lt_or_eq.mp hle with hlt | heq
  · exact .inl (Month.lt_iff_index_lt.mpr hlt)
  · have hmonth := Month.eq_of_index_eq heq
    refine .inr ⟨hmonth, ?_⟩
    have hlength := d.le_length
    rwa [hmonth] at hlength

theorem inCalendar_latest : latest.InCalendar := by decide

/-- A date lies between the first and the last day of its month, and of no other. -/
theorem month_eq_iff {m : Month} : d.month = m ↔ m.opening ≤ d ∧ d ≤ m.closing := by
  constructor
  · rintro rfl
    exact ⟨.inr ⟨rfl, d.one_le⟩, .inr ⟨rfl, d.le_length⟩⟩
  · rintro ⟨hopening, hclosing⟩
    rcases hopening with hlt | ⟨heq, -⟩
    · rcases hclosing with hgt | ⟨heq, -⟩
      · rw [Month.lt_iff_index_lt] at hlt hgt
        simp only [Month.opening, Month.closing] at hlt hgt
        omega
      · exact heq
    · exact heq.symm

/-- As many dates lie in a month as it has days. -/
theorem ncard_month_eq (m : Month) : {d : Date | d.month = m}.ncard = m.length := by
  have hinj : Set.InjOn day {d : Date | d.month = m} := by
    rintro a ha b hb hday
    exact eq_iff.mpr ⟨Eq.trans ha (Eq.symm hb), hday⟩
  have himage : Set.image day {d : Date | d.month = m} = Set.Icc 1 m.length := by
    ext n
    constructor
    · rintro ⟨d, rfl, rfl⟩
      exact ⟨d.one_le, d.le_length⟩
    · rintro ⟨hone, hle⟩
      exact ⟨⟨m, n, hone, hle⟩, rfl, rfl⟩
  rw [← hinj.ncard_image, himage, Set.ncard_eq_toFinset_card', Set.toFinset_Icc, Nat.card_Icc,
    Nat.add_sub_cancel]

end Date

namespace Month

variable {m : Month} {d : Date}

theorem firstDay_of_not_inCalendar (h : ¬m.InCalendar) : m.firstDay = Date.earliest := by
  simp only [firstDay, Date.ofMonth?]
  rw [dif_neg fun hin ↦ h hin.2]
  rfl

theorem lastDay_of_firstDay_succ (h : m.succ.firstDay = Date.earliest) :
    m.lastDay = Date.latest := by
  rw [lastDay, h]
  rfl

/-- Out of the calendar a month is given the last day of the calendar. -/
theorem lastDay_of_not_inCalendar (h : ¬m.InCalendar) : m.lastDay = Date.latest := by
  apply lastDay_of_firstDay_succ
  by_cases hsucc : m.succ.InCalendar
  · -- Only the first month of the calendar comes after one out of it.
    have hm : m.succ = january firstYear := by
      have hindex := index_succ m
      have := m.one_le
      have := m.le_twelve
      have := m.succ.one_le
      have := m.succ.le_twelve
      simp only [InCalendar, firstYear, lastYear] at h hsucc
      refine eq_of_index_eq ?_
      simp only [index, january, firstYear] at hindex ⊢
      omega
    rw [firstDay_eq hsucc, hm]
    rfl
  · exact firstDay_of_not_inCalendar hsucc

/-- A month is over the day before the next one begins. -/
theorem dayNumber_lastDay (h : m.InCalendar) (hsucc : m.succ.InCalendar) :
    m.lastDay.dayNumber + 1 = m.succ.firstDay.dayNumber := by
  rw [lastDay_eq h, firstDay_eq hsucc, dayNumber_opening_succ, Date.dayNumber_eq]
  simp only [closing]
  omega

/-- The last month of the calendar ends with it. -/
theorem isGreatest_lastDay (hsucc : ¬m.succ.InCalendar) :
    IsGreatest {d : Date | d.InCalendar} m.lastDay := by
  rw [lastDay_of_firstDay_succ (firstDay_of_not_inCalendar hsucc)]
  exact ⟨Date.inCalendar_latest, fun d hd ↦ Date.le_latest hd⟩

/-- The months that are over on a day are those before its month. -/
theorem lastDay_lt_iff (hd : d.InCalendar) : m.lastDay < d ↔ m.InCalendar ∧ m < d.month := by
  by_cases h : m.InCalendar
  · rw [lastDay_eq h, Date.lt_def]
    constructor
    · rintro (hlt | ⟨rfl, hlt⟩)
      · exact ⟨h, hlt⟩
      · exact absurd d.le_length (Nat.not_le.mpr hlt)
    · rintro ⟨-, hlt⟩
      exact .inl hlt
  · have hle := Date.le_iff_dayNumber_le.mp (Date.le_latest hd)
    rw [lastDay_of_not_inCalendar h, Date.lt_iff_dayNumber_lt]
    simp only [h, false_and, iff_false]
    omega

theorem isGreatest_lastCompleted (hd : d.InCalendar) (hfirst : january firstYear < d.month) :
    IsGreatest {x : Month | x.lastDay < d} (lastCompleted d) := by
  have hindex : (lastCompleted d).index = d.month.index - 1 := index_pred _
  rw [lt_iff_index_lt] at hfirst
  constructor
  · refine (lastDay_lt_iff hd).mpr ⟨?_, lt_iff_index_lt.mpr (by omega)⟩
    have hnumber := (lastCompleted d).one_le
    have hnumber' := (lastCompleted d).le_twelve
    have := d.month.le_twelve
    obtain ⟨-, hlast⟩ := hd
    simp only [index, january] at hfirst hindex
    constructor <;> omega
  · intro x hx
    have hlt := lt_iff_index_lt.mp ((lastDay_lt_iff hd).mp hx).2
    exact le_iff_index_le.mpr (by omega)

theorem inCalendar_of_ofNumbers {year : Int} {number : Nat} (h : ofNumbers year number = .ok m) :
    m.InCalendar := by
  obtain ⟨rfl, -, hyear⟩ := ofNumbers_eq_ok_iff.mp h
  exact hyear

/-- A date of the calendar is in a month exactly if it lies between the first and the last day of the
month. The last day is the day before the next month begins, or the last of the calendar where none
follows, and the month has as many days as there are dates in it. The last month completed on a day
is the greatest of those whose last day is before it. -/
theorem months_partition_calendar :
    (∀ year number m, ofNumbers year number = .ok m →
      (∀ d : Date, d.InCalendar → (d.month = m ↔ m.firstDay ≤ d ∧ d ≤ m.lastDay)) ∧
      (m.succ.InCalendar → m.lastDay.dayNumber + 1 = m.succ.firstDay.dayNumber) ∧
      (¬m.succ.InCalendar → IsGreatest {d : Date | d.InCalendar} m.lastDay) ∧
      {d : Date | d.InCalendar ∧ d.month = m}.ncard = m.days) ∧
    ∀ d : Date, d.InCalendar → january firstYear < d.month →
      (lastCompleted d).InCalendar ∧ IsGreatest {m : Month | m.lastDay < d} (lastCompleted d) := by
  constructor
  · intro year number m h
    have hm := inCalendar_of_ofNumbers h
    have hdates : {d : Date | d.InCalendar ∧ d.month = m} = {d : Date | d.month = m} := by
      ext d
      constructor
      · exact And.right
      · rintro rfl
        exact ⟨hm, rfl⟩
    refine ⟨?_, dayNumber_lastDay hm, isGreatest_lastDay, ?_⟩
    · intro d _
      rw [firstDay_eq hm, lastDay_eq hm]
      exact Date.month_eq_iff
    · rw [hdates, Date.ncard_month_eq, days, lastDay_eq hm, closing]
  · intro d hd hfirst
    have hgreatest := isGreatest_lastCompleted hd hfirst
    exact ⟨((lastDay_lt_iff hd).mp hgreatest.1).1, hgreatest⟩

/-- A leap day, the last month of the calendar, and a day at the turn of a year. -/
theorem months_partition_calendar_in_leap_year :
    {d : Date | d.InCalendar ∧ d.month = { year := 2020, number := 2 }}.ncard = 29 ∧
    IsGreatest {d : Date | d.InCalendar} (lastDay { year := 262142, number := 12 }) ∧
    IsGreatest {m : Month | m.lastDay < (january 2021).opening} { year := 2020, number := 12 } :=
  ⟨(months_partition_calendar.1 2020 2 _ rfl).2.2.2,
    (months_partition_calendar.1 262142 12 _ rfl).2.2.1 (by decide),
    (months_partition_calendar.2 (january 2021).opening (by decide) (by decide)).2⟩

end Month
end UsageReports
