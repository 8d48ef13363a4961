import UsageReports.Job.Progress
import UsageReports.Trigger.Clock

/-!
# The harvest service

The harvester beside the scheduler: a firing of a tenant's trigger starts a periodic job, and
removing the trigger cancels the job that it started.
-/

namespace UsageReports

/-- A harvester, and the scheduler whose firings start its periodic jobs. -/
structure Service (σ : Type) where
  harvester : Harvester σ
  clock : Clock

namespace Service

variable {σ : Type}

/-- Set the periodic trigger of a tenant and keep its last firing. -/
def setPeriodic (s : Service σ) (tenant : String) (interval : Interval) (start : Instant) :
    Except TriggerError (Option Instant) × Service σ :=
  let (result, scheduler) := s.clock.scheduler.reconfigure tenant interval start s.clock.now
  (result, { s with clock := { s.clock with scheduler } })

/-- Remove the periodic trigger of a tenant, then cancel its periodic job. -/
def removePeriodic (s : Service σ) (tenant : String) : Except TriggerError Unit × Service σ :=
  match s.clock.scheduler.erase tenant with
  | (.error e, scheduler) => (.error e, { s with clock := { s.clock with scheduler } })
  | (.ok (), scheduler) =>
    (.ok (), { s with clock := { s.clock with scheduler }
                      harvester := (s.harvester.cancelPeriodic tenant).2 })

/-- Start a periodic job for a tenant whose trigger has fired; nothing is done while another job is
in the way. -/
def follow (s : Service σ) (tenant : String) : Service σ :=
  match s.harvester.startTenant tenant .periodic with
  | .ok (_, harvester) => { s with harvester }
  | .error _ => s

/-- Take the first firing that was sent, and follow it. -/
def followNext (s : Service σ) : Service σ :=
  match s.clock.scheduler.receive with
  | (none, _) => s
  | (some firing, scheduler) =>
    { s with clock := { s.clock with scheduler } }.follow firing.tenant

end Service

end UsageReports
