import UsageReports.Plan.Range
import UsageReports.Data.Sorted

/-!
# Packing months into ranges

Ranges are packed type by type: the months they cover, each once and in order, are joined into
ranges of successive months, each as long as the settings allow. Some report types are only ever
asked for one month at a time.
-/

namespace UsageReports

/-- How months are joined into ranges. -/
structure Packing where
  /-- The longest range, in months. -/
  maxMonths : Nat := 12
  /-- The report types that are asked for month by month. -/
  singleMonthTypes : List String := ["TR"]

namespace Packing

/-- Whether months of a report type may be joined. -/
def isJoinable (p : Packing) (reportType : String) : Bool :=
  !p.singleMonthTypes.contains reportType

/-- Join months to the range `current` as long as they follow it and it is short enough; start a new
range at any other month. -/
def join (p : Packing) (current : Range) : List Month → List Range
  | [] => [current]
  | m :: ms =>
    if current.last.succ = m ∧ current.length < p.maxMonths then
      p.join { current with last := m } ms
    else current :: p.join (Range.single current.reportType m) ms

/-- The ranges of one report type, from its months in order. -/
def packMonths (p : Packing) (reportType : String) (months : List Month) : List Range :=
  if p.isJoinable reportType then
    match months with
    | [] => []
    | m :: ms => p.join (Range.single reportType m) ms
  else months.map (Range.single reportType)

/-- The months that some ranges cover in one report type, in order and each once. -/
def monthsOf (ranges : List Range) (reportType : String) : List Month :=
  sortedSet ((ranges.filter (·.reportType = reportType)).flatMap Range.months)

/-- The report types of some ranges, in order and each once. -/
def typesOf (ranges : List Range) : List String := sortedSet (ranges.map (·.reportType))

/-- Cover the same months with packed ranges. -/
def pack (p : Packing) (ranges : List Range) : List Range :=
  (typesOf ranges).flatMap fun t => p.packMonths t (monthsOf ranges t)

end Packing

end UsageReports
