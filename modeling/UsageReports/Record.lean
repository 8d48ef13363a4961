import UsageReports.Json.Writer
import UsageReports.Json.Reader

/-!
# Records

A record says what is known of one month of one report type of a provider: its payload, or why it is
missing. `Record.onto` tells what becomes of the stored record when a new one arrives: a satisfied
month is never lost to a failure, and failures in a row are counted.
-/

namespace UsageReports

/-- What is known of one month of one report type of a provider. `attempts` is a 32-bit count. -/
structure Record where
  provider : String
  reportType : String
  month : Month
  payload : Option Json
  failure : Option String
  attempts : Nat

namespace Record

/-- A fetched month. -/
def success (provider reportType : String) (month : Month) (payload : Json) : Record :=
  ⟨provider, reportType, month, some payload, none, 0⟩

/-- A placeholder for a month that could not be fetched. -/
def placeholder (provider reportType : String) (month : Month) (reason : String) : Record :=
  ⟨provider, reportType, month, none, some reason, 1⟩

/-- Whether the month is there. -/
def isSatisfied (r : Record) : Bool := r.payload.isSome && r.failure.isNone

/-- Whether the month failed. -/
def isFailure (r : Record) : Bool := r.failure.isSome

/-- Whether the month failed so often that it is not asked for again. -/
def isExhausted (r : Record) (limit : Nat) : Bool := r.isFailure && limit ≤ r.attempts

/-- What identifies a record. -/
structure Key where
  provider : String
  reportType : String
  month : Month
deriving DecidableEq

/-- The key of a record. -/
def key (r : Record) : Key := ⟨r.provider, r.reportType, r.month⟩

/-- One more attempt, up to the largest 32-bit count. -/
def nextAttempt (n : Nat) : Nat := min (n + 1) maxUInt32

/-- What to store when `r` arrives where `stored` is; nothing to store when a failure meets a
satisfied month. -/
def onto (r : Record) (stored : Option Record) : Option Record :=
  match stored with
  | none => some r
  | some old =>
    if r.isFailure then
      if old.isSatisfied then none
      else if old.isFailure then some { r with attempts := nextAttempt old.attempts }
      else some r
    else some { r with attempts := 0 }

/-- The fields of the written form, in their declared order. -/
def fieldNames : List String :=
  ["provider_id", "report_type", "month", "payload", "failure_reason", "attempt_count"]

/-- A record as a JSON value; a missing payload or reason is left out. -/
def toJson (r : Record) : Json :=
  Json.object <|
    [("provider_id", .str r.provider), ("report_type", .str r.reportType),
      ("month", .str r.month.text), ("attempt_count", .int r.attempts)] ++
    (r.payload.map fun p => ("payload", p)).toList ++
    (r.failure.map fun reason => ("failure_reason", .str reason)).toList

/-- Read a record. A payload or reason that is null counts as missing. -/
def ofData? (d : Data) : Option Record := do
  let fs ← d.fields? fieldNames 3
  let provider ← fs.required "provider_id" Data.text?
  let reportType ← fs.required "report_type" Data.text?
  let month ← fs.required "month" Data.month?
  let payload ← fs.optional "payload" (Json.ofData? (Json.maxDepth - 1))
  let failure ← fs.optional "failure_reason" Data.text?
  let attempts ← fs.withDefault "attempt_count" 0 (Data.nat? maxUInt32)
  pure { provider, reportType, month, payload, failure, attempts }

/-- Read a record from JSON text. -/
def ofText? (s : String) : Option Record := (Json.document? s).bind ofData?

end Record

end UsageReports
