import UsageReports.Calendar.Month
import UsageReports.Text.Numeral

/-!
# Errors of the calendar

Why a month or a range of months was refused, and how that is told.
-/

namespace UsageReports

/-- The text of a month: the year, a minus sign counted, to four places and the number to two. -/
def Month.chars (m : Month) : List Char :=
  paddedInt 4 m.year ++ '-' :: paddedDigits 2 m.number

/-- The text of a month, `YYYY-MM`. -/
def Month.text (m : Month) : String := String.ofList m.chars

/-- Why a month or a range of months is refused. -/
inductive RangeError where
  /-- A month number outside 1 to 12. -/
  | monthOutOfRange (number : Nat)
  /-- A year the calendar does not reach. -/
  | yearOutOfRange (year : Int)
  /-- A text that is no month. -/
  | unreadable (text : String)
  | startMissing
  | endMissing
  /-- A range whose first month is after its last. -/
  | inverted (first last : Month)
  /-- A reason in the caller's words. -/
  | stated (reason : String)
deriving DecidableEq

/-- The reason in words. -/
def RangeError.reason : RangeError → String
  | .monthOutOfRange number => s!"month {number} out of range 1-12"
  | .yearOutOfRange year => s!"year {year} out of range"
  | .unreadable text => s!"cannot parse '{text}' as YYYY-MM"
  | .startMissing => "start month is missing"
  | .endMissing => "end month is missing"
  | .inverted first last => s!"begin {first.text} is after end {last.text}"
  | .stated reason => reason

/-- The error as it is reported. -/
def RangeError.message (e : RangeError) : String := s!"Invalid range: {e.reason}"

end UsageReports
