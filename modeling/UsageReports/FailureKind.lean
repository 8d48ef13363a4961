import UsageReports.Failure

/-!
# Kinds of failures

A name for every kind of error. A wrapped error has the kind of what it wraps.
-/

namespace UsageReports

/-- The kind of a store error. -/
def StoreError.kind : StoreError → String
  | .database _ => "Database"
  | .serialization _ => "Serialization"
  | .corrupt _ => "Corrupt"
  | .poisoned => "Poisoned"
  | .io _ => "Io"

/-- The kind of a fetch error. -/
def FetchError.kind : FetchError → String
  | .rateLimited => "RateLimited"
  | .invalidReport _ => "InvalidReport"
  | .failure _ => "Failure"

/-- The kind of a source error. -/
def SourceError.kind : SourceError → String
  | .unknownService _ => "UnknownServiceType"
  | .setup _ _ => "FetcherInit"

/-- The kind of a trigger error. -/
def TriggerError.kind : TriggerError → String
  | .unsupportedInterval _ => "UnsupportedInterval"
  | .notFound _ => "NotFound"
  | .invalid _ _ => "TriggerConfigError"
  | .store _ _ => "SchedulerStore"

/-- The kind of a job error. -/
def JobError.kind : JobError → String
  | .alreadyInProgress _ => "AlreadyInProgress"
  | .alreadyScheduled _ _ => "AlreadyScheduled"
  | .providerNotFound _ _ => "ProviderNotFound"
  | .store e => e.kind
  | .source e => e.kind
  | .trigger e => e.kind
  | .aborted _ _ => "JobAborted"

/-- The kind of a failure. -/
def Failure.kind : Failure → String
  | .calendar _ => "InvalidRange"
  | .plan _ => "HarvestingNotActive"
  | .fetch e => e.kind
  | .source e => e.kind
  | .store e => e.kind
  | .trigger e => e.kind
  | .job e => e.kind
  | .io _ => "Io"
  | .config _ => "Config"
  | .other _ => "Other"

end UsageReports
