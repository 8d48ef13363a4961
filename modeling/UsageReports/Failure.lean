import UsageReports.Job.JobError
import UsageReports.Plan.Gap

/-!
# Failures

The errors of all parts under one type, as a caller of the whole library sees them.
-/

namespace UsageReports

/-- An error of any part. -/
inductive Failure where
  | calendar (cause : RangeError)
  | plan (cause : PlanError)
  | fetch (cause : FetchError)
  | source (cause : SourceError)
  | store (cause : StoreError)
  | trigger (cause : TriggerError)
  | job (cause : JobError)
  | io (reason : String)
  | config (reason : String)
  /-- What was being done when something else went wrong. -/
  | other (context : String)

namespace Failure

/-- The failure as it is reported. -/
def message : Failure → String
  | calendar cause => s!"Calendar error: {cause.message}"
  | plan cause => s!"Plan error: {cause.message}"
  | fetch cause => s!"Fetch error: {cause.message}"
  | source cause => s!"Harvest error: {cause.message}"
  | store cause => s!"Storage error: {cause.message}"
  | trigger cause => s!"Scheduler error: {cause.message}"
  | job cause => cause.message
  | io reason => s!"I/O error: {reason}"
  | config reason => s!"Config error: {reason}"
  | other context => context

/-- Whether trying again may help. -/
def isRecoverable : Failure → Bool
  | fetch cause => cause.isRecoverable
  | store cause => cause.isTransient
  | trigger cause => cause.isRecoverable
  | job cause => cause.isRecoverable
  | io _ => true
  | calendar _ | plan _ | source _ | config _ | other _ => false

/-- The kind of a failure. -/
def category : Failure → Category
  | calendar _ => .calendar
  | fetch _ => .network
  | plan _ | source _ | config _ => .config
  | store _ | io _ => .storage
  | trigger (.store _ _) => .storage
  | trigger _ => .scheduler
  | job cause => cause.category
  | other _ => .other

end Failure

end UsageReports
