import UsageReports.Harvest.FetchError
import UsageReports.Data.Keyed
import UsageReports.Plan.Range
import UsageReports.Record

/-!
# Replies to fetches

How a fetch may end, and the records that a reply stands for. A reply with records is filed under
the months of the range: each month gets the last record that was returned for it, or a placeholder.
-/

namespace UsageReports

/-- How a fetch ended. -/
inductive Reply where
  | records (returned : List Record)
  | refused (cause : FetchError)
  /-- The fetch broke down, with a text if it left one. -/
  | panicked (text : Option String)
  /-- The fetch ended without a trace of its own. -/
  | died

/-- What a fetch brought; one that broke down has failed. -/
def Reply.result : Reply → Except FetchError (List Record)
  | records returned => .ok returned
  | refused cause => .error cause
  | panicked text => .error (.failure ("fetcher panicked: " ++ text.getD "unknown panic"))
  | died => .error (.failure "fetch task panicked")

namespace Range

/-- Whether a record is of the report type and within the months of a range. -/
def wants (range : Range) (r : Record) : Bool :=
  r.reportType = range.reportType && range.first ≤ r.month && r.month ≤ range.last

/-- Why a month has no record though its range was fetched. -/
def missingMonth : String := "no record returned for month"

/-- A placeholder for each month of a range. -/
def placeholders (range : Range) (provider reason : String) : List Record :=
  range.months.map fun m => .placeholder provider range.reportType m reason

/-- The records that a range wants, one per month, each in the provider's name. A later record
replaces an earlier one of its month. -/
def byMonth (range : Range) (provider : String) (returned : List Record) : List Record :=
  returned.foldl
    (fun kept r => if range.wants r then Keyed.put Record.month { r with provider } kept else kept) []

/-- The records of a range that was fetched, one for each of its months in order. -/
def filed (range : Range) (provider : String) (returned : List Record) : List Record :=
  let kept := range.byMonth provider returned
  range.months.map fun m =>
    (Keyed.get? Record.month m kept).getD
      (.placeholder provider range.reportType m missingMonth)

end Range

end UsageReports
