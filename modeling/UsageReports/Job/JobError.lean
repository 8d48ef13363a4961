import UsageReports.Harvest.FetchError
import UsageReports.Trigger.TriggerError

/-!
# Errors of jobs

Why a job was not started, or how it ended badly, and the kinds that errors fall into.
-/

namespace UsageReports

/-- The kinds that errors fall into. -/
inductive Category where
  | calendar
  | network
  | storage
  | config
  | scheduler
  | admission
  | other
deriving DecidableEq

/-- The name of a kind of error. -/
def Category.text : Category → String
  | .calendar => "calendar"
  | .network => "network"
  | .storage => "storage"
  | .config => "config"
  | .scheduler => "scheduler"
  | .admission => "admission"
  | .other => "other"

/-- Why a job was not started, or how it ended badly. -/
inductive JobError where
  | alreadyInProgress (tenant : String)
  | alreadyScheduled (tenant provider : String)
  | providerNotFound (tenant provider : String)
  | store (cause : StoreError)
  | source (cause : SourceError)
  | trigger (cause : TriggerError)
  | aborted (job reason : String)
deriving DecidableEq

namespace JobError

/-- The error as it is reported. -/
def message : JobError → String
  | alreadyInProgress tenant => s!"A harvest is already in progress for tenant '{tenant}'"
  | alreadyScheduled tenant provider =>
    s!"A harvest is already scheduled for provider '{provider}' of tenant '{tenant}'"
  | providerNotFound tenant provider =>
    s!"Provider '{provider}' not found for tenant '{tenant}'"
  | store cause => s!"Store error: {cause.message}"
  | source cause => cause.message
  | trigger cause => cause.message
  | aborted job reason => s!"Job {job} aborted: {reason}"

/-- Whether another job stood in the way. -/
def isConflict : JobError → Bool
  | alreadyInProgress _ | alreadyScheduled _ _ => true
  | _ => false

/-- Whether the same request may succeed later. -/
def isRecoverable : JobError → Bool
  | alreadyInProgress _ | alreadyScheduled _ _ => true
  | store cause => cause.isTransient
  | trigger cause => cause.isRecoverable
  | providerNotFound _ _ | source _ | aborted _ _ => false

/-- The kind of an error. -/
def category : JobError → Category
  | alreadyInProgress _ | alreadyScheduled _ _ => .admission
  | providerNotFound _ _ | source _ => .config
  | store _ => .storage
  | trigger _ => .scheduler
  | aborted _ _ => .other

end JobError

end UsageReports
