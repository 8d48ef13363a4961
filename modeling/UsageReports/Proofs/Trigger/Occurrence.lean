import Mathlib.Order.Bounds.Defs
import UsageReports.Proofs.Trigger.NextFire

/-!
# Occurrences of rules

A rule falls on certain days, always at one time of day. The instant that a rule finds from a given
one on is the least of its occurrences that are not before that one, as long as the calendar reaches
any of these.
-/

namespace UsageReports

/-! ### Weekdays -/

namespace Weekday

theorem ofDayNumber_eq_iff (n : Int) (w : Weekday) :
    ofDayNumber n = w ↔ (n + 3) % 7 = w.afterMonday := by
  obtain ⟨k, hk, hlt⟩ : ∃ k : Nat, (n + 3) % 7 = k ∧ k < 7 :=
    ⟨((n + 3) % 7).toNat, by omega, by omega⟩
  have hindex : ∀ k < 7, all.getD k monday = w ↔ k = w.afterMonday := by
    cases w <;> decide
  rw [ofDayNumber, hk, Int.toNat_natCast, hindex k hlt, Int.natCast_inj]

theorem afterMonday_lt (w : Weekday) : w.afterMonday < 7 := by
  cases w <;> decide

end Weekday

/-! ### Times on days -/

/-- Whether a time is one of a day of 86400 seconds, and in no leap second. -/
def TimeOfDay.InDay (time : TimeOfDay) : Prop :=
  time.second < secondsPerDay ∧ time.nanos < nanosPerSecond

namespace Instant

/-- Whether the calendar reaches an instant. -/
def InCalendar (t : Instant) : Prop := t.date.month.InCalendar

instance (t : Instant) : Decidable t.InCalendar := inferInstanceAs (Decidable (Month.InCalendar _))

section OnDay

variable {time : TimeOfDay} (htime : time.InDay)
include htime

theorem dayNumber_onDay (n : Int) : (onDay n time).dayNumber = n := by
  have hlt := htime.1
  simp only [dayNumber, onDay, secondsPerDay] at hlt ⊢
  omega

theorem time_onDay (n : Int) : (onDay n time).time = time := by
  obtain ⟨hsecond, hnanos⟩ := htime
  have hnanos : time.nanos < 2000000000 := Nat.lt_trans hnanos (by decide)
  have hrest : ((n * secondsPerDay + time.second : Int) % secondsPerDay).toNat = time.second := by
    simp only [secondsPerDay] at hsecond ⊢
    omega
  simp only [Instant.time, secondOfDay, onDay, hrest, Nat.mod_eq_of_lt hnanos]

theorem addDays_onDay (n : Int) (days : Nat) :
    (onDay n time).addDays days = onDay (n + days) time := by
  have hnanos : time.nanos < 1000000000 := htime.2
  unfold addDays
  split
  · next h => rw [h, Int.natCast_zero, Int.add_zero]
  · simp only [onDay, nanosPerSecond, secondsPerDay, mk.injEq]
    omega

/-- A time on an earlier day comes earlier. -/
theorem onDay_lt {t : Instant} {n : Int} (h : n < t.dayNumber) : onDay n time < t := by
  obtain ⟨hsecond, hnanos⟩ := htime
  change (onDay n time).rank < t.rank
  simp only [dayNumber, rank, onDay, secondsPerDay] at h hsecond ⊢
  omega

end OnDay

theorem onDay_le_onDay (time : TimeOfDay) {a b : Int} (h : a ≤ b) :
    onDay a time ≤ onDay b time := by
  change (onDay a time).rank ≤ (onDay b time).rank
  simp only [rank, onDay, secondsPerDay]
  omega

/-- An instant is its time on its day. -/
theorem onDay_time (t : Instant) : onDay t.dayNumber t.time = t := by
  obtain ⟨second, nanos, hnanos⟩ := t
  have hmod : nanos % 2000000000 = nanos := Nat.mod_eq_of_lt hnanos
  simp only [onDay, dayNumber, Instant.time, secondOfDay, secondsPerDay, mk.injEq, hmod, and_true]
  omega

/-- An instant of an earlier month comes earlier. -/
theorem month_le {t x : Instant} (h : t ≤ x) : t.date.month ≤ x.date.month := by
  refine Month.le_iff_index_le.mpr (Int.not_lt.mp fun hnot ↦ ?_)
  have hmonth : x.date.month < t.date.month := Month.lt_iff_index_lt.mpr hnot
  have hday := dayNumber_lt hmonth
  rw [date, Date.dayNumber_ofDayNumber] at hday
  have hlt := lt_onDay hday t.time
  rw [onDay_time] at hlt
  exact absurd h (Int.not_le.mpr hlt)

end Instant

/-! ### Occurrences -/

namespace Rule

/-- Whether a rule falls on a date. -/
def FallsOn (r : Rule) (d : Date) : Prop :=
  match r with
  | daily _ => True
  | weekly weekday _ => Weekday.ofDayNumber d.dayNumber = weekday
  | monthly day _ => d.day = min day d.month.length
  | monthlyLastDay _ => d.day = d.month.length

instance (r : Rule) (d : Date) : Decidable (r.FallsOn d) :=
  match r with
  | daily _ => inferInstanceAs (Decidable True)
  | weekly _ _ | monthly _ _ | monthlyLastDay _ => inferInstanceAs (Decidable (_ = _))

/-- Whether an instant is an occurrence of a rule. -/
def Occurs (r : Rule) (x : Instant) : Prop := r.FallsOn x.date ∧ x.time = r.time

instance (r : Rule) (x : Instant) : Decidable (r.Occurs x) :=
  inferInstanceAs (Decidable (_ ∧ _))

/-- Whether the time of a rule lies within a day, and its day, if it has one, is not the zeroth. -/
def IsProper (r : Rule) : Prop :=
  r.time.InDay ∧ match r with
    | monthly day _ => 1 ≤ day
    | _ => True

variable {r : Rule} {t : Instant}

theorem Occurs.onDay_eq {x : Instant} (h : r.Occurs x) :
    Instant.onDay x.dayNumber r.time = x := by
  rw [← h.2, Instant.onDay_time]

theorem occurs_onDay (htime : r.time.InDay) {d : Date} (h : r.FallsOn d) :
    r.Occurs (.onDay d.dayNumber r.time) := by
  refine ⟨?_, Instant.time_onDay htime _⟩
  rwa [Instant.date, Instant.dayNumber_onDay htime, Date.ofDayNumber_dayNumber]

/-- The candidate on `day`, or else the later one, is the least occurrence from `t` on: no other day
of the rule lies between the day of `t` and `day`, and none between `day` and `later`. -/
theorem isLeast_orLater (htime : r.time.InDay) (day later : Date) (hday : r.FallsOn day)
    (hbefore : ∀ d, r.FallsOn d → d.dayNumber < day.dayNumber → d.dayNumber < t.dayNumber)
    (hlater : ¬ t ≤ .onDay day.dayNumber r.time → r.FallsOn later ∧
      t.dayNumber < later.dayNumber ∧
      ∀ d, r.FallsOn d → day.dayNumber < d.dayNumber → later.dayNumber ≤ d.dayNumber) :
    IsLeast {x | r.Occurs x ∧ t ≤ x}
      (orLater t (.onDay day.dayNumber r.time) (.onDay later.dayNumber r.time)) := by
  have hnumber (x : Instant) : x.date.dayNumber = x.dayNumber := Date.dayNumber_ofDayNumber _
  unfold orLater
  split
  · next h =>
    refine ⟨⟨occurs_onDay htime hday, h⟩, ?_⟩
    rintro x ⟨hx, htx⟩
    rw [← hx.onDay_eq]
    refine Instant.onDay_le_onDay _ (Int.not_lt.mp fun hlt ↦ ?_)
    have hbefore := hbefore x.date hx.1 (by rwa [hnumber])
    rw [hnumber] at hbefore
    have hearly := Instant.onDay_lt htime hbefore
    rw [hx.onDay_eq] at hearly
    exact absurd htx (Int.not_le.mpr hearly)
  · next h =>
    obtain ⟨hfalls, hafter, hbetween⟩ := hlater h
    refine ⟨⟨occurs_onDay htime hfalls, Int.le_of_lt (Instant.lt_onDay hafter _)⟩, ?_⟩
    rintro x ⟨hx, htx⟩
    rw [← hx.onDay_eq, ← hnumber]
    refine Instant.onDay_le_onDay _ (hbetween x.date hx.1 (Int.not_le.mp fun hle ↦ h ?_))
    rw [hnumber] at hle
    have hle := Instant.onDay_le_onDay r.time hle
    rw [hx.onDay_eq] at hle
    exact Int.le_trans htx hle

/-- What a rule finds where it falls on one day of each month. -/
theorem isLeast_orLater_of_monthly (htime : r.time.InDay) (pick : Month → Date)
    (hpick : ∀ m, m.InCalendar → (pick m).month = m ∧
      ∀ d : Date, d.month = m → (r.FallsOn d ↔ d = pick m))
    (hlow : firstYear ≤ t.date.month.year)
    (hocc : ∃ x, r.Occurs x ∧ t ≤ x ∧ x.InCalendar) :
    IsLeast {x | r.Occurs x ∧ t ≤ x}
      (orLater t (.onDay (pick t.date.month).dayNumber r.time)
        (.onDay (pick t.date.month.succ).dayNumber r.time)) := by
  obtain ⟨x, hx, htx, hcalendar⟩ := hocc
  have hmonth : t.date.month.InCalendar :=
    ⟨hlow, Int.le_trans (by have := Month.le_def.mp (Instant.month_le htx); omega) hcalendar.2⟩
  obtain ⟨hin, hfalls⟩ := hpick _ hmonth
  have hindex := t.date.month.index_succ
  -- A day of the rule is that of this month, or lies in an earlier or in a later one.
  have hthree (d : Date) (hd : r.FallsOn d) : d = pick t.date.month ∨
      d.month < t.date.month ∧ d.dayNumber < (pick t.date.month).dayNumber ∨
      t.date.month < d.month ∧ (pick t.date.month).dayNumber < d.dayNumber := by
    rcases Int.lt_trichotomy d.month.index t.date.month.index with hlt | heq | hgt
    · have hlt := Month.lt_iff_index_lt.mpr hlt
      exact Or.inr (Or.inl ⟨hlt, Date.dayNumber_lt_of_month_lt (by rwa [hin])⟩)
    · exact Or.inl ((hfalls d (Month.eq_of_index_eq heq)).mp hd)
    · have hgt := Month.lt_iff_index_lt.mpr hgt
      exact Or.inr (Or.inr ⟨hgt, Date.dayNumber_lt_of_month_lt (by rwa [hin])⟩)
  refine isLeast_orLater htime _ _ ((hfalls _ hin).mpr rfl) ?_ ?_
  · intro d hd hlt
    rcases hthree d hd with rfl | ⟨hearlier, -⟩ | ⟨-, hlater⟩
    · omega
    · have hnumber := Date.dayNumber_lt_of_month_lt hearlier
      rwa [Instant.date, Date.dayNumber_ofDayNumber] at hnumber
    · omega
  · intro hpast
    have hnext : t.date.month.succ.InCalendar := by
      have hmonth' : t.date.month < x.date.month := by
        rcases hthree x.date hx.1 with heq | ⟨hearlier, -⟩ | ⟨hlater, -⟩
        · refine absurd ?_ hpast
          rwa [← heq, Instant.date, Date.dayNumber_ofDayNumber, hx.onDay_eq]
        · have hle := Month.le_iff_index_le.mp (Instant.month_le htx)
          rw [Month.lt_iff_index_lt] at hearlier
          omega
        · exact hlater
      have hle : t.date.month.succ ≤ x.date.month := by
        rw [Month.lt_iff_index_lt] at hmonth'
        rw [Month.le_iff_index_le]
        omega
      have hge : t.date.month ≤ t.date.month.succ := by
        rw [Month.le_iff_index_le]
        omega
      have hlast := hcalendar.2
      rw [Month.le_def] at hle hge
      exact ⟨by omega, by omega⟩
    obtain ⟨hin', hfalls'⟩ := hpick _ hnext
    have hlt : t.date.month < t.date.month.succ := by
      rw [Month.lt_iff_index_lt]
      omega
    refine ⟨(hfalls' _ hin').mpr rfl, Instant.dayNumber_lt (by rwa [hin']), ?_⟩
    intro d hd hgt
    rcases hthree d hd with rfl | ⟨-, hearlier⟩ | ⟨hlater, -⟩
    · omega
    · omega
    · by_cases hsame : d.month = t.date.month.succ
      · exact Int.le_of_eq (congrArg Date.dayNumber ((hfalls' d hsame).mp hd)).symm
      · have hne : d.month.index ≠ t.date.month.succ.index := mt Month.eq_of_index_eq hsame
        rw [Month.lt_iff_index_lt] at hlater
        refine Int.le_of_lt (Date.dayNumber_lt_of_month_lt ?_)
        rw [hin', Month.lt_iff_index_lt]
        omega

theorem fallsOn_weekly (weekday : Weekday) (time : TimeOfDay) (n : Int) :
    (weekly weekday time).FallsOn (.ofDayNumber n) ↔ (n + 3) % 7 = weekday.afterMonday := by
  rw [FallsOn, Date.dayNumber_ofDayNumber, Weekday.ofDayNumber_eq_iff]

theorem dayOf_eq {m : Month} (h : m.InCalendar) {day : Nat} (hday : 1 ≤ day) :
    (dayOf m day).month = m ∧ (dayOf m day).day = min day m.length := by
  simp only [dayOf, Date.ofMonth?]
  split
  · next hin => exact ⟨rfl, (Nat.min_eq_left hin.1.2).symm⟩
  · next hout =>
    have hlong : m.length ≤ day := by
      have := mt (fun hle ↦ (⟨⟨hday, hle⟩, h⟩ : (1 ≤ day ∧ day ≤ m.length) ∧ _)) hout
      omega
    rw [Option.getD_none, Month.lastDay_eq h, Nat.min_eq_right hlong]
    exact ⟨rfl, rfl⟩

/-- The first instant of a rule from a given one on is the least of its occurrences from there on,
if the calendar reaches any of these. -/
theorem isLeast_firstAtOrAfter (hproper : r.IsProper) (hlow : firstYear ≤ t.date.month.year)
    (hocc : ∃ x, r.Occurs x ∧ t ≤ x ∧ x.InCalendar) :
    IsLeast {x | r.Occurs x ∧ t ≤ x} (r.firstAtOrAfter t) := by
  obtain ⟨htime, hday⟩ := hproper
  have hnumber := Date.dayNumber_ofDayNumber
  cases r with
  | daily time =>
    have hleast := isLeast_orLater (t := t) htime (.ofDayNumber t.dayNumber)
      (.ofDayNumber (t.dayNumber + 1)) trivial
    rw [hnumber, hnumber] at hleast
    simp only [firstAtOrAfter]
    rw [Instant.addDays_onDay (show time.InDay from htime)]
    exact hleast (fun d _ hlt ↦ hlt) fun _ ↦ ⟨trivial, by omega, fun d _ hlt ↦ by omega⟩
  | weekly weekday time =>
    have htoday := (Weekday.ofDayNumber_eq_iff t.dayNumber _).mp rfl
    have hwanted := weekday.afterMonday_lt
    simp only [firstAtOrAfter]
    generalize (Weekday.ofDayNumber t.dayNumber).afterMonday = today at htoday ⊢
    generalize hahead : (7 + weekday.afterMonday - today) % 7 = ahead
    have hleast := isLeast_orLater (t := t) htime (.ofDayNumber (t.dayNumber + ahead))
      (.ofDayNumber (t.dayNumber + ahead + 7)) ((fallsOn_weekly _ _ _).mpr (by omega))
    rw [hnumber, hnumber] at hleast
    have hdays := Instant.addDays_onDay (show time.InDay from htime)
    rw [hdays, hdays]
    -- The days of the rule are a week apart.
    refine hleast (fun d hd hlt ↦ ?_) fun _ ↦
      ⟨(fallsOn_weekly _ _ _).mpr (by omega), by omega, fun d hd hlt ↦ ?_⟩
    · rw [← Date.ofDayNumber_dayNumber d, fallsOn_weekly] at hd
      omega
    · rw [← Date.ofDayNumber_dayNumber d, fallsOn_weekly] at hd
      omega
  | monthly day time =>
    refine isLeast_orLater_of_monthly htime (dayOf · day) ?_ hlow hocc
    intro m hm
    obtain ⟨hmonth, hpicked⟩ := dayOf_eq hm hday
    refine ⟨hmonth, fun d hd ↦ ?_⟩
    rw [Date.eq_iff, hmonth, hpicked, ← hd]
    exact (and_iff_right rfl).symm
  | monthlyLastDay time =>
    refine isLeast_orLater_of_monthly htime Month.lastDay ?_ hlow hocc
    intro m hm
    rw [Month.lastDay_eq hm]
    refine ⟨rfl, fun d hd ↦ ?_⟩
    rw [Date.eq_iff, Month.closing, ← hd]
    exact (and_iff_right rfl).symm

end Rule
end UsageReports
