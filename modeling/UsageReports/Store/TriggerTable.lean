import UsageReports.Calendar.InstantText
import UsageReports.Store.Triggers
import UsageReports.Trigger.TriggerError

/-!
# Triggers as table rows

The stored triggers as rows of text. A row is decoded when it is read: first its interval, then its
instants.
-/

namespace UsageReports

/-- A row of the table of triggers. Its key is the tenant. -/
structure TriggerRow where
  tenant : String
  interval : String
  start : String
  lastFired : Option String
deriving DecidableEq

namespace TriggerRow

/-- The row of a trigger. -/
def ofTrigger (t : Trigger) : TriggerRow :=
  ⟨t.tenant, t.interval.text, t.start.text, t.lastFired.map Instant.text⟩

/-- Read a stored instant. -/
def instant (s : String) : Except StoreError Instant :=
  match Instant.ofText? s with
  | some t => .ok t
  | none => .error (.corrupt s!"timestamp '{s}': no instant of RFC 3339")

/-- The trigger of a row. -/
def decode (row : TriggerRow) : Except StoreError Trigger := do
  let interval ← match Interval.ofText row.interval with
    | .ok i => pure i
    | .error e => .error (.corrupt s!"trigger of '{row.tenant}': {e.message}")
  let start ← instant row.start
  let lastFired ← match row.lastFired with
    | none => pure none
    | some s => (instant s).map some
  pure { tenant := row.tenant, interval, start, lastFired }

end TriggerRow

/-- A table of triggers, each tenant at most once. -/
structure TriggerTable where
  rows : List TriggerRow
deriving DecidableEq

namespace TriggerTable

/-- No rows. -/
def empty : TriggerTable := ⟨[]⟩

/-- Put a row in the table as it is, in place of the one of its tenant. -/
def putRow (t : TriggerTable) (row : TriggerRow) : TriggerTable :=
  ⟨Keyed.put TriggerRow.tenant row t.rows⟩

/-- The trigger of a tenant. -/
def get (t : TriggerTable) (tenant : String) : Except StoreError (Option Trigger) :=
  match Keyed.get? TriggerRow.tenant tenant t.rows with
  | none => .ok none
  | some row => row.decode.map some

/-- Store a trigger in place of the one of its tenant. -/
def put (t : TriggerTable) (trigger : Trigger) : TriggerTable := t.putRow (.ofTrigger trigger)

/-- Remove the trigger of a tenant. -/
def erase (t : TriggerTable) (tenant : String) : TriggerTable :=
  ⟨Keyed.erase TriggerRow.tenant tenant t.rows⟩

/-- All triggers in the order of their tenants. -/
def list (t : TriggerTable) : Except StoreError (List Trigger) :=
  (t.rows.mergeSort fun a b => a.tenant ≤ b.tenant).mapM TriggerRow.decode

end TriggerTable

end UsageReports
