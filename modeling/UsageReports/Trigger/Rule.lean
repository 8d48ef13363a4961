import UsageReports.Calendar.Instant

/-!
# Recurring rules

A rule names instants that recur: every day at a time, or on a weekday, on a day of every month, or
on the last day of every month. `Rule.firstAtOrAfter` finds the first of them from a given instant
on.
-/

namespace UsageReports

/-- A rule of recurring instants. -/
inductive Rule where
  | daily (time : TimeOfDay)
  | weekly (weekday : Weekday) (time : TimeOfDay)
  /-- On a day of every month; on the last day of a month without that day. -/
  | monthly (day : Nat) (time : TimeOfDay)
  | monthlyLastDay (time : TimeOfDay)
deriving DecidableEq

namespace Rule

/-- The time of day of a rule. -/
def time : Rule → TimeOfDay
  | daily time | weekly _ time | monthly _ time | monthlyLastDay time => time

/-- A day of a month, or its last day where there is no such day. -/
def dayOf (m : Month) (day : Nat) : Date := (Date.ofMonth? m day).getD m.lastDay

/-- The candidate, or the later one where `t` is after the candidate. -/
def orLater (t candidate later : Instant) : Instant := if t ≤ candidate then candidate else later

/-- The first instant of a rule that is not before `t`. -/
def firstAtOrAfter (r : Rule) (t : Instant) : Instant :=
  let today := t.dayNumber
  let month := t.date.month
  match r with
  | daily time =>
    let candidate := Instant.onDay today time
    orLater t candidate (candidate.addDays 1)
  | weekly weekday time =>
    let ahead := (7 + weekday.afterMonday - (Weekday.ofDayNumber today).afterMonday) % 7
    let candidate := (Instant.onDay today time).addDays ahead
    orLater t candidate (candidate.addDays 7)
  | monthly day time =>
    orLater t (.onDay (dayOf month day).dayNumber time)
      (.onDay (dayOf month.succ day).dayNumber time)
  | monthlyLastDay time =>
    orLater t (.onDay month.lastDay.dayNumber time) (.onDay month.succ.lastDay.dayNumber time)

/-- A rule as it is shown. -/
def text : Rule → String
  | daily time => s!"daily at {time.minuteText} UTC"
  | weekly weekday time => s!"weekly on {weekday.text} at {time.minuteText} UTC"
  | monthly day time => s!"monthly on day {day} at {time.minuteText} UTC"
  | monthlyLastDay time => s!"monthly on the last day at {time.minuteText} UTC"

end Rule

end UsageReports
