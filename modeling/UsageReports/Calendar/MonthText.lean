import UsageReports.Calendar.RangeError
import UsageReports.Text.Blank
import UsageReports.Text.Split

/-!
# Months as text

`Month.ofNumbers` checks a year and a month number; `Month.ofText` reads `YYYY-MM`, with anything
after a second dash ignored, so that a date names its month.
-/

namespace UsageReports

/-- The first year of the calendar. -/
def firstYear : Int := -262143

/-- The last year of the calendar. -/
def lastYear : Int := 262142

namespace Month

/-- The month of a year and a month number. The month number is checked first. -/
def ofNumbers (year : Int) (number : Nat) : Except RangeError Month :=
  if h : 1 ≤ number ∧ number ≤ 12 then
    if firstYear ≤ year ∧ year ≤ lastYear then
      .ok { year, number, one_le := h.1, le_twelve := h.2 }
    else .error (.yearOutOfRange year)
  else .error (.monthOutOfRange number)

/-- The year and month numerals of a text: what stands before the first dash, and between it and
the second one. -/
def numerals? (cs : List Char) : Option (Int × Nat) :=
  match splitAtFirst '-' cs with
  | (year, some rest) => do
    let y ← int32OfNumeral? year
    let n ← uint32OfNumeral? (splitAtFirst '-' rest).1
    pure (y, n)
  | (_, none) => none

/-- Read a month. Blanks around the text are ignored. -/
def ofText (s : String) : Except RangeError Month :=
  let cs := trim s.toList
  match numerals? cs with
  | some (year, number) => ofNumbers year number
  | none => .error (.unreadable (String.ofList cs))

/-- All months from one text to another; each must be given. -/
def betweenTexts (first last : Option String) : Except RangeError (List Month) := do
  let some a := first | .error .startMissing
  let a ← ofText a
  let some b := last | .error .endMissing
  let b ← ofText b
  pure (between a b)

end Month

end UsageReports
