import UsageReports.Calendar.Date

/-!
# Instants

An instant of universal time: whole seconds since 1970-01-01 and nanoseconds in the second. During a
leap second the nanoseconds go on from 10 ^ 9, so that instants are ordered by seconds, then
nanoseconds. The module also has times of day and days of the week.
-/

namespace UsageReports

/-- Nanoseconds in a second. -/
def nanosPerSecond : Nat := 1000000000

/-- Seconds in a day. -/
def secondsPerDay : Nat := 86400

/-- A time of day to the nanosecond. From 10 ^ 9 nanoseconds on it is in a leap second. -/
structure TimeOfDay where
  second : Nat
  nanos : Nat
deriving DecidableEq

/-- The days of the week. -/
inductive Weekday where
  | monday | tuesday | wednesday | thursday | friday | saturday | sunday
deriving DecidableEq

namespace Weekday

/-- The days in order. -/
def all : List Weekday := [monday, tuesday, wednesday, thursday, friday, saturday, sunday]

/-- Days after Monday. -/
def afterMonday : Weekday → Nat
  | monday => 0
  | tuesday => 1
  | wednesday => 2
  | thursday => 3
  | friday => 4
  | saturday => 5
  | sunday => 6

/-- The short English name. -/
def text : Weekday → String
  | monday => "Mon"
  | tuesday => "Tue"
  | wednesday => "Wed"
  | thursday => "Thu"
  | friday => "Fri"
  | saturday => "Sat"
  | sunday => "Sun"

/-- The weekday of a day number: 1970-01-01 was a Thursday. -/
def ofDayNumber (n : Int) : Weekday := all.getD ((n + 3) % 7).toNat monday

end Weekday

/-- An instant of universal time. -/
structure Instant where
  second : Int
  nanos : Nat
  nanos_lt : nanos < 2000000000
deriving DecidableEq

namespace Instant

instance : Inhabited Instant := ⟨⟨0, 0, by decide⟩⟩

/-- The place of an instant in the order of instants. -/
def rank (t : Instant) : Int := t.second * 2000000000 + t.nanos

instance : LT Instant := ⟨fun a b => a.rank < b.rank⟩

instance : LE Instant := ⟨fun a b => a.rank ≤ b.rank⟩

instance (a b : Instant) : Decidable (a < b) := inferInstanceAs (Decidable (a.rank < b.rank))

instance (a b : Instant) : Decidable (a ≤ b) := inferInstanceAs (Decidable (a.rank ≤ b.rank))

/-- The later of two instants. -/
def latest (a b : Instant) : Instant := if a ≤ b then b else a

/-- The instant one nanosecond later. -/
def next (t : Instant) : Instant :=
  if h : t.nanos = 999999999 ∨ t.nanos = 1999999999 then ⟨t.second + 1, 0, by decide⟩
  else ⟨t.second, t.nanos + 1, by have := t.nanos_lt; omega⟩

/-- The instant a number of days later, at the same time of day. A leap second is left on the way to
another day. -/
def addDays (t : Instant) (days : Nat) : Instant :=
  if days = 0 then t
  else ⟨t.second + days * secondsPerDay, t.nanos % nanosPerSecond,
    Nat.lt_trans (Nat.mod_lt _ (by decide)) (by decide)⟩

/-- Days since 1970-01-01. -/
def dayNumber (t : Instant) : Int := t.second / secondsPerDay

/-- The date of an instant. -/
def date (t : Instant) : Date := Date.ofDayNumber t.dayNumber

/-- Seconds since midnight. -/
def secondOfDay (t : Instant) : Nat := (t.second % secondsPerDay).toNat

/-- A time on a day. -/
def onDay (day : Int) (time : TimeOfDay) : Instant :=
  ⟨day * secondsPerDay + time.second, time.nanos % 2000000000, Nat.mod_lt _ (by decide)⟩

end Instant

namespace TimeOfDay

/-- The shortest of no, three, six or nine decimal places that loses nothing. -/
def fractionChars (nanos : Nat) : List Char :=
  if nanos = 0 then []
  else if nanos % 1000000 = 0 then '.' :: paddedDigits 3 (nanos / 1000000)
  else if nanos % 1000 = 0 then '.' :: paddedDigits 6 (nanos / 1000)
  else '.' :: paddedDigits 9 nanos

/-- The text of a time of day to the minute, `HH:MM`. -/
def minuteText (t : TimeOfDay) : String :=
  String.ofList (paddedDigits 2 (t.second / 3600) ++ ':' :: paddedDigits 2 (t.second / 60 % 60))

/-- The text of a time of day, `HH:MM:SS` with a fraction where there is one. -/
def chars (t : TimeOfDay) : List Char :=
  paddedDigits 2 (t.second / 3600) ++ ':' :: paddedDigits 2 (t.second / 60 % 60) ++ ':' ::
    paddedDigits 2 (t.second % 60 + t.nanos / nanosPerSecond) ++
    fractionChars (t.nanos % nanosPerSecond)

end TimeOfDay

/-- The time of day of an instant. -/
def Instant.time (t : Instant) : TimeOfDay := ⟨t.secondOfDay, t.nanos⟩

end UsageReports
