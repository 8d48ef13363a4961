import UsageReports.Calendar.InstantText
import UsageReports.Json.Reader
import UsageReports.Trigger.Trigger

/-!
# Triggers as JSON
-/

namespace UsageReports.Trigger

/-- The fields of the written form, in their declared order. -/
def fieldNames : List String := ["tenant_id", "interval", "start_at", "last_triggered_at"]

/-- An instant, given as text. -/
def instant? : Data → Option Instant
  | .text s => Instant.ofLooseText? s
  | _ => none

/-- Read a trigger. -/
def ofData? (d : Data) : Option Trigger := do
  let fs ← d.fields? fieldNames 1
  let tenant ← fs.required "tenant_id" Data.text?
  let interval ← fs.required "interval" fun d => d.text?.bind Interval.ofText?
  let start ← fs.required "start_at" instant?
  let lastFired ← fs.optional "last_triggered_at" instant?
  pure { tenant, interval, start, lastFired }

/-- Read a trigger from JSON text. -/
def ofJsonText? (s : String) : Option Trigger := (Json.document? s).bind ofData?

/-- A trigger as a JSON value. -/
def toJson (t : Trigger) : Json :=
  Json.object
    [("tenant_id", .str t.tenant), ("interval", .str t.interval.text),
      ("start_at", .str t.start.zuluText),
      ("last_triggered_at", match t.lastFired with | some i => .str i.zuluText | none => .null)]

end UsageReports.Trigger
