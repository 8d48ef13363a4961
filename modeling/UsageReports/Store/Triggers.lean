import UsageReports.Data.Keyed
import UsageReports.Trigger.Trigger

/-!
# Triggers in memory

The stored triggers, one for each tenant.
-/

namespace UsageReports

/-- Stored triggers, each tenant at most once. -/
structure Triggers where
  entries : List Trigger
deriving DecidableEq

namespace Triggers

/-- No triggers. -/
def empty : Triggers := ⟨[]⟩

/-- The trigger of a tenant. -/
def get? (s : Triggers) (tenant : String) : Option Trigger :=
  Keyed.get? Trigger.tenant tenant s.entries

/-- Store a trigger in place of the one of its tenant. -/
def put (s : Triggers) (t : Trigger) : Triggers := ⟨Keyed.put Trigger.tenant t s.entries⟩

/-- Remove the trigger of a tenant. -/
def erase (s : Triggers) (tenant : String) : Triggers :=
  ⟨Keyed.erase Trigger.tenant tenant s.entries⟩

/-- All triggers in the order of their tenants. -/
def list (s : Triggers) : List Trigger := s.entries.mergeSort fun a b => a.tenant ≤ b.tenant

end Triggers

end UsageReports
