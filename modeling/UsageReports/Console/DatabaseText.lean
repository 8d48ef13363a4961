import UsageReports.Console.Disk
import UsageReports.Json.Reader
import UsageReports.Json.Writer

/-!
# Databases as text

A database as a JSON document: the rows of its two tables, as they are.
-/

namespace UsageReports

/-- A text, or null. -/
def Json.ofText (s : Option String) : Json :=
  match s with
  | some s => .str s
  | none => .null

namespace RecordRow

/-- The fields of a written row, in their order. -/
def fieldNames : List String :=
  ["provider_id", "report_type", "month", "payload", "failure_reason", "attempt_count"]

/-- A row as a JSON value. -/
def toJson (r : RecordRow) : Json :=
  .obj
    [("attempt_count", .int r.attempts), ("failure_reason", .ofText r.failure),
      ("month", .str r.month), ("payload", .ofText r.payload), ("provider_id", .str r.provider),
      ("report_type", .str r.reportType)]

/-- A whole number. -/
def int? : Data → Option Int
  | .int n => some n
  | _ => none

/-- Read a row. -/
def ofData? (d : Data) : Option RecordRow := do
  let fs ← d.fields? fieldNames 0
  let provider ← fs.required "provider_id" Data.text?
  let reportType ← fs.required "report_type" Data.text?
  let month ← fs.required "month" Data.text?
  let payload ← fs.optional "payload" Data.text?
  let failure ← fs.optional "failure_reason" Data.text?
  let attempts ← fs.required "attempt_count" int?
  pure { provider, reportType, month, payload, failure, attempts }

end RecordRow

namespace TriggerRow

/-- The fields of a written row, in their order. -/
def fieldNames : List String := ["tenant_id", "interval", "start_at", "last_triggered_at"]

/-- A row as a JSON value. -/
def toJson (r : TriggerRow) : Json :=
  .obj
    [("interval", .str r.interval), ("last_triggered_at", .ofText r.lastFired),
      ("start_at", .str r.start), ("tenant_id", .str r.tenant)]

/-- Read a row. -/
def ofData? (d : Data) : Option TriggerRow := do
  let fs ← d.fields? fieldNames 0
  let tenant ← fs.required "tenant_id" Data.text?
  let interval ← fs.required "interval" Data.text?
  let start ← fs.required "start_at" Data.text?
  let lastFired ← fs.optional "last_triggered_at" Data.text?
  pure { tenant, interval, start, lastFired }

end TriggerRow

namespace Database

/-- The text of a database. -/
def text (d : Database) : String :=
  (Json.obj
    [("records", .arr (d.records.rows.map RecordRow.toJson)),
      ("triggers", .arr (d.triggers.rows.map TriggerRow.toJson))]).text

/-- Read a database. -/
def ofText? (s : String) : Option Database := do
  let d ← Json.document? s
  let fs ← d.fields? ["records", "triggers"] 0
  let records ← fs.required "records" (Data.list? RecordRow.ofData?)
  let triggers ← fs.required "triggers" (Data.list? TriggerRow.ofData?)
  pure { records := ⟨records⟩, triggers := ⟨triggers⟩ }

end Database

/-- What a file holds: a database, or else its text. -/
def DiskEntry.ofText (s : String) : DiskEntry :=
  match Database.ofText? s with
  | some content => .database content
  | none => .text s

end UsageReports
