import UsageReports.Harvest.FetchError
import UsageReports.Plan.Range
import UsageReports.Record

/-!
# Reports over HTTP

The document that a source answers with: items, each with its month, and exceptions. A report
becomes one record for each month of the range that was asked for, or an error.
-/

namespace UsageReports

/-- What a report holds of one month. -/
structure ReportItem where
  month : Month
  data : Json

/-- What a source has to say instead of items, or beside them. -/
structure ReportException where
  code : Nat
  message : String
deriving DecidableEq

/-- The document that a source answers with. -/
structure HttpReport where
  items : List ReportItem
  exceptions : List ReportException

/-- Read an item. It lies three levels deep in its document. -/
def ReportItem.ofData? (d : Data) : Option ReportItem := do
  let fs ← d.fields? ["month", "data"] 1
  let month ← fs.required "month" Data.month?
  let data ← fs.withDefault "data" .null (Json.ofData? (Json.maxDepth - 3))
  pure { month, data }

namespace ReportException

/-- The code by which a source asks to slow down. -/
def slowDown : Nat := 1020

/-- Read an exception. -/
def ofData? (d : Data) : Option ReportException := do
  let fs ← d.fields? ["code", "message"] 1
  let code ← fs.required "code" (Data.nat? maxUInt32)
  let message ← fs.withDefault "message" "" Data.text?
  pure { code, message }

/-- An exception as a reason shows it. -/
def text (e : ReportException) : String := s!"{e.code}: {e.message}"

end ReportException

namespace HttpReport

/-- Read a report. -/
def ofData? (d : Data) : Option HttpReport := do
  let fs ← d.fields? ["items", "exceptions"] 2
  let items ← fs.withDefault "items" [] (Data.list? ReportItem.ofData?)
  let exceptions ← fs.withDefault "exceptions" [] (Data.list? ReportException.ofData?)
  pure { items, exceptions }

/-- Read a report from JSON text. -/
def ofText? (s : String) : Option HttpReport := (Json.document? s).bind ofData?

/-- The data of the items of a month. -/
def dataOf (r : HttpReport) (m : Month) : List Json :=
  (r.items.filter (·.month = m)).map ReportItem.data

/-- The records of a range: for each month a success with all that the report holds of it. -/
def records (r : HttpReport) (provider : String) (range : Range) : List Record :=
  range.months.map fun m => .success provider range.reportType m (.arr (r.dataOf m))

/-- What a report means for a range that was asked for. -/
def result (r : HttpReport) (provider : String) (range : Range) : Except FetchError (List Record) :=
  if r.exceptions.any (·.code = ReportException.slowDown) then .error .rateLimited
  else if r.items.isEmpty && !r.exceptions.isEmpty then
    .error (.invalidReport ("; ".intercalate (r.exceptions.map ReportException.text)))
  else .ok (r.records provider range)

end HttpReport

end UsageReports
