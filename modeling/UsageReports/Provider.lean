import UsageReports.Record

/-!
# Providers

A provider of reports, as a tenant has declared it: where its reports are, which types are wanted,
and from which month to which.
-/

namespace UsageReports

/-- Whether a provider is harvested. -/
inductive Status where
  | active
  | inactive
deriving DecidableEq

/-- The written form of a status. -/
def Status.text : Status → String
  | .active => "active"
  | .inactive => "inactive"

/-- The status written so. -/
def Status.ofText? (s : String) : Option Status :=
  [Status.active, .inactive].find? (·.text = s)

/-- Read a status: its name, or a table of its name alone with an empty value. What an empty value
is depends on the format. -/
def Status.ofData? (isEmpty : Data → Bool) : Data → Option Status
  | .text s => ofText? s
  | .table [(name, d)] => if isEmpty d then ofText? name else none
  | _ => none

/-- A provider as declared for a tenant. `reportTypes` is sorted and holds each type once, `params`
is sorted by name. -/
structure Provider where
  id : String
  tenant : String
  serviceType : String := "http_json"
  baseUrl : String := ""
  reportTypes : List String
  start : Month
  stop : Option Month := none
  status : Status := .active
  maxFailedAttempts : Nat := 5
  params : List (String × String) := []

namespace Provider

/-- A provider with all defaults. -/
def declare (tenant id : String) (reportTypes : List String) (start : Month) : Provider :=
  { id, tenant, reportTypes := sortedSet reportTypes, start }

/-- Whether a provider is harvested. -/
def isActive (p : Provider) : Bool := p.status = .active

/-- The fields of the written form, in their declared order. -/
def fieldNames : List String :=
  ["provider_id", "tenant_id", "service_type", "base_url", "requested_report_types", "range_start",
    "range_end", "status", "max_failed_attempts", "params"]

/-- Read a provider. `isEmpty` tells what an empty value is in the format at hand. -/
def ofData? (isEmpty : Data → Bool) (d : Data) : Option Provider := do
  let fs ← d.fields? fieldNames 4
  let id ← fs.required "provider_id" Data.text?
  let tenant ← fs.required "tenant_id" Data.text?
  let serviceType ← fs.withDefault "service_type" "http_json" Data.text?
  let baseUrl ← fs.withDefault "base_url" "" Data.text?
  let reportTypes ← fs.required "requested_report_types" (Data.list? Data.text?)
  let start ← fs.required "range_start" Data.month?
  let stop ← fs.optional "range_end" Data.month?
  let status ← fs.withDefault "status" .active (Status.ofData? isEmpty)
  let maxFailedAttempts ← fs.withDefault "max_failed_attempts" 5 (Data.nat? maxUInt32)
  let params ← fs.withDefault "params" [] (Data.entries? Data.text?)
  pure { id, tenant, serviceType, baseUrl, reportTypes := sortedSet reportTypes, start, stop, status
         maxFailedAttempts, params := sortedBy Prod.fst params }

/-- In JSON null is the empty value. -/
def jsonEmpty : Data → Bool
  | .null => true
  | _ => false

/-- Read a provider from JSON text. -/
def ofJsonText? (s : String) : Option Provider := (Json.document? s).bind (ofData? jsonEmpty)

/-- A provider as a JSON value. -/
def toJson (p : Provider) : Json :=
  Json.object
    [("provider_id", .str p.id), ("tenant_id", .str p.tenant),
      ("service_type", .str p.serviceType), ("base_url", .str p.baseUrl),
      ("requested_report_types", .arr (p.reportTypes.map .str)),
      ("range_start", .str p.start.text),
      ("range_end", match p.stop with | some m => .str m.text | none => .null),
      ("status", .str p.status.text), ("max_failed_attempts", .int p.maxFailedAttempts),
      ("params", .obj (p.params.map fun (k, v) => (k, .str v)))]

end Provider

end UsageReports
