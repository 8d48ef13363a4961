import UsageReports.Proofs.Calendar.DayNumber
import UsageReports.Proofs.Calendar.Moving
import UsageReports.Trigger.Trigger

/-!
# The next firing of a trigger

The instant that a rule finds is not before the one from which it was looked for, as long as the
calendar has the month in which it has to be looked for. A trigger is looked up just after its last
firing, so that it always fires later than it did before.
-/

namespace UsageReports

namespace Month

/-- Whether the calendar reaches a month. -/
def InCalendar (m : Month) : Prop := firstYear ≤ m.year ∧ m.year ≤ lastYear

instance (m : Month) : Decidable m.InCalendar := inferInstanceAs (Decidable (_ ∧ _))

theorem firstDay_eq {m : Month} (h : m.InCalendar) : m.firstDay = m.opening := by
  simp only [firstDay, Date.ofMonth?]
  rw [dif_pos ⟨⟨Nat.le_refl 1, m.one_le_length⟩, h⟩]
  rfl

/-- The last day of a month of the calendar is the day with the number of its days. -/
theorem lastDay_eq {m : Month} (h : m.InCalendar) : m.lastDay = m.closing := by
  obtain ⟨hfirst, hlast⟩ := h
  have hsucc : m.succ.index = m.index + 1 := index_succ m
  have hnumber := m.one_le
  have hnumber' := m.le_twelve
  by_cases hin : m.succ.InCalendar
  · have hnone : ¬ (m.succ.year ≤ firstYear ∧ m.succ.number = 1) := by
      rintro ⟨hyear, hone⟩
      simp only [index] at hsucc
      omega
    have hpred : m.succ.opening.pred? = some m.closing := by
      simp only [Date.pred?, opening, Nat.lt_irrefl, if_neg hnone, pred_succ]
      rfl
    rw [lastDay, firstDay_eq hin, hpred]
    rfl
  · -- Only the last month of the calendar is followed by none.
    have hyear : m.year = lastYear ∧ m.number = 12 := by
      have := m.succ.one_le
      have := m.succ.le_twelve
      simp only [InCalendar, index] at hin hsucc
      omega
    have hout : m.succ.firstDay = Date.earliest := by
      simp only [firstDay, Date.ofMonth?]
      rw [dif_neg (fun h ↦ hin h.2)]
      rfl
    have hm : m = (january lastYear).addMonths 11 := by
      refine eq_of_index_eq ?_
      rw [index_addMonths]
      simp only [january, index]
      omega
    rw [lastDay, hout, show Date.earliest.pred? = none by decide, hm]
    rfl

/-- The last day of a month lies in it. -/
theorem lastDay_month {m : Month} (h : m.InCalendar) : m.lastDay.month = m := by
  rw [lastDay_eq h, closing]

end Month

namespace Rule

/-- The day of a month lies in it. -/
theorem dayOf_month {m : Month} (h : m.InCalendar) (day : Nat) : (dayOf m day).month = m := by
  simp only [dayOf, Date.ofMonth?]
  split
  · rfl
  · exact Month.lastDay_month h

end Rule

namespace Instant

/-- Whether the calendar has the month after that of an instant. -/
def HasNextMonth (t : Instant) : Prop := t.date.month.succ.InCalendar

instance (t : Instant) : Decidable t.HasNextMonth :=
  inferInstanceAs (Decidable (Month.InCalendar _))

/-- The next instant comes later. -/
theorem lt_next (t : Instant) : t < t.next := by
  have hlt := t.nanos_lt
  change t.rank < t.next.rank
  unfold next rank
  split
  · push_cast
    omega
  · push_cast
    omega

/-- An instant on a later day comes later. -/
theorem lt_of_dayNumber_lt {t x : Instant} (h : t.dayNumber < x.dayNumber) : t < x := by
  have hlt := t.nanos_lt
  change t.rank < x.rank
  simp only [dayNumber, rank, secondsPerDay] at h ⊢
  omega

theorem le_dayNumber_onDay (day : Int) (time : TimeOfDay) : day ≤ (onDay day time).dayNumber := by
  simp only [dayNumber, onDay, secondsPerDay]
  omega

/-- A time on a later day comes later. -/
theorem lt_onDay {t : Instant} {day : Int} (h : t.dayNumber < day) (time : TimeOfDay) :
    t < onDay day time :=
  lt_of_dayNumber_lt (Int.lt_of_lt_of_le h (le_dayNumber_onDay day time))

theorem dayNumber_addDays (t : Instant) (days : Nat) :
    (t.addDays days).dayNumber = t.dayNumber + days := by
  unfold addDays
  split
  · next h => rw [h]; exact (Int.add_zero _).symm
  · simp only [dayNumber, secondsPerDay]
    omega

/-- A date of a later month than that of an instant comes after its day. -/
theorem dayNumber_lt {t : Instant} {d : Date} (h : t.date.month < d.month) :
    t.dayNumber < d.dayNumber := by
  have hlt := Date.dayNumber_lt_of_month_lt h
  rwa [date, Date.dayNumber_ofDayNumber] at hlt

end Instant

namespace Rule

/-- Neither candidate comes before the instant, where the second is on a later day. -/
theorem le_orLater {t later : Instant} (h : t.dayNumber < later.dayNumber) (candidate : Instant) :
    t ≤ orLater t candidate later := by
  unfold orLater
  split
  · assumption
  · exact Int.le_of_lt (Instant.lt_of_dayNumber_lt h)

/-- The months in which a rule has to look, if it goes by months. -/
def CanLook (r : Rule) (t : Instant) : Prop :=
  match r with
  | daily _ | weekly _ _ => True
  | monthly _ _ | monthlyLastDay _ => t.HasNextMonth

/-- The first instant of a rule from a given one on is not before that one. -/
theorem le_firstAtOrAfter {r : Rule} {t : Instant} (h : r.CanLook t) : t ≤ r.firstAtOrAfter t := by
  have hsucc : t.date.month < t.date.month.succ := by
    rw [Month.lt_iff_index_lt, Month.index_succ]
    omega
  cases r with
  | daily time =>
    refine le_orLater ?_ _
    have hle := Instant.le_dayNumber_onDay t.dayNumber time
    rw [Instant.dayNumber_addDays]
    omega
  | weekly weekday time =>
    refine le_orLater ?_ _
    have hle := Instant.le_dayNumber_onDay t.dayNumber time
    rw [Instant.dayNumber_addDays, Instant.dayNumber_addDays]
    omega
  | monthly day time =>
    refine le_orLater (Int.lt_of_lt_of_le ?_ (Instant.le_dayNumber_onDay _ time)) _
    exact Instant.dayNumber_lt (by rwa [dayOf_month h])
  | monthlyLastDay time =>
    refine le_orLater (Int.lt_of_lt_of_le ?_ (Instant.le_dayNumber_onDay _ time)) _
    exact Instant.dayNumber_lt (by rwa [Month.lastDay_month h])

end Rule

namespace Instant

theorem le_latest_left (a b : Instant) : a ≤ a.latest b := by
  unfold latest
  split
  · assumption
  · exact Int.le_refl _

end Instant

namespace Trigger

/-- Whether the calendar goes on far enough for the next firing of a trigger to be found. -/
def CanPlan (t : Trigger) : Prop := t.interval = .monthly → t.effectiveStart.HasNextMonth

instance (t : Trigger) : Decidable t.CanPlan := inferInstanceAs (Decidable (_ → _))

theorem CanPlan.canLook {t : Trigger} (h : t.CanPlan) : t.rule.CanLook t.effectiveStart := by
  unfold rule
  cases hi : t.interval with
  | daily => trivial
  | weekly => trivial
  | monthly =>
    simp only
    split
    · exact h hi
    · exact h hi

/-- A trigger may fire again only after its last firing. -/
theorem lastFired_lt_effectiveStart {t : Trigger} {last : Instant} (h : t.lastFired = some last) :
    last < t.effectiveStart := by
  simp only [effectiveStart, h]
  split
  · exact last.lt_next
  · next hlt => exact Int.not_le.mp hlt

/-- A trigger fires later than it did before, whatever the clock shows. -/
theorem lastFired_lt_nextFire {t : Trigger} (h : t.CanPlan) (now : Instant) {last : Instant}
    (hlast : t.lastFired = some last) : last < t.nextFire now :=
  Int.lt_of_lt_of_le (lastFired_lt_effectiveStart hlast)
    (Int.le_trans (Rule.le_firstAtOrAfter h.canLook) (Instant.le_latest_left _ _))

end Trigger

end UsageReports
