import UsageReports.Text.Blank

/-!
# Intervals

How often a trigger fires.
-/

namespace UsageReports

/-- How often a trigger fires. -/
inductive Interval where
  | daily
  | weekly
  | monthly
deriving DecidableEq

namespace Interval

/-- The name of an interval. -/
def text : Interval → String
  | daily => "daily"
  | weekly => "weekly"
  | monthly => "monthly"

/-- The interval of a name; blanks around it and the case of ASCII letters do not matter. -/
def ofText? (s : String) : Option Interval :=
  let name := String.ofList ((trim s.toList).map Char.toLower)
  [daily, weekly, monthly].find? (·.text = name)

end Interval

end UsageReports
