import UsageReports.Data.Tree

/-!
# Report ranges

A range asks for one report type over successive months. A range whose first month is after its last
spans no month.
-/

namespace UsageReports

/-- One report type over the months from `first` to `last`. -/
structure Range where
  reportType : String
  first : Month
  last : Month
deriving DecidableEq

namespace Range

/-- A range that spans at least one month. -/
def ofMonths (reportType : String) (first last : Month) : Except RangeError Range :=
  if last < first then .error (.inverted first last) else .ok ⟨reportType, first, last⟩

/-- The range of one month. -/
def single (reportType : String) (month : Month) : Range := ⟨reportType, month, month⟩

/-- The months of a range, in order. -/
def months (r : Range) : List Month := Month.between r.first r.last

/-- The length of a range in months, counted as one where it spans none. -/
def length (r : Range) : Nat := max 1 (r.first.monthsUntil r.last + 1).toNat

/-- Whether a range is one month. -/
def isSingle (r : Range) : Bool := r.first = r.last

/-- A range month by month. -/
def expand (r : Range) : List Range := r.months.map (single r.reportType)

/-- A range as it is shown: `TR[2020-01]` or `DR[2020-01..2020-03]`. -/
def text (r : Range) : String :=
  if r.isSingle then s!"{r.reportType}[{r.first.text}]"
  else s!"{r.reportType}[{r.first.text}..{r.last.text}]"

/-- Read a range; its months may stand in any order. -/
def ofData? (d : Data) : Option Range := do
  let fs ← d.fields? ["report_type", "begin", "end"] 0
  let reportType ← fs.required "report_type" Data.text?
  let first ← fs.required "begin" Data.month?
  let last ← fs.required "end" Data.month?
  pure { reportType, first, last }

end Range

end UsageReports
