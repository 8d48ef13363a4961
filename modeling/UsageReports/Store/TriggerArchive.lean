import UsageReports.Store.TriggerTable

/-!
# Trigger archives

Where triggers are kept: in memory or in a table.
-/

namespace UsageReports

/-- A store of triggers of either kind. -/
inductive TriggerArchive where
  | memory (triggers : Triggers)
  | table (rows : TriggerTable)
deriving DecidableEq

namespace TriggerArchive

/-- The trigger of a tenant. -/
def get (a : TriggerArchive) (tenant : String) : Except StoreError (Option Trigger) :=
  match a with
  | memory triggers => .ok (triggers.get? tenant)
  | table rows => rows.get tenant

/-- Store a trigger in place of the one of its tenant. -/
def put (a : TriggerArchive) (t : Trigger) : TriggerArchive :=
  match a with
  | memory triggers => memory (triggers.put t)
  | table rows => table (rows.put t)

/-- Whether a tenant has a stored trigger, readable or not. -/
def contains (a : TriggerArchive) (tenant : String) : Bool :=
  match a with
  | memory triggers => (triggers.get? tenant).isSome
  | table rows => (Keyed.get? TriggerRow.tenant tenant rows.rows).isSome

/-- Remove the trigger of a tenant. -/
def erase (a : TriggerArchive) (tenant : String) : TriggerArchive :=
  match a with
  | memory triggers => memory (triggers.erase tenant)
  | table rows => table (rows.erase tenant)

/-- All triggers in the order of their tenants. -/
def list : TriggerArchive → Except StoreError (List Trigger)
  | memory triggers => .ok triggers.list
  | table rows => rows.list

end TriggerArchive

end UsageReports
