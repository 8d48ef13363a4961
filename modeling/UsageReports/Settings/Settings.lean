import UsageReports.Pace.Backoff
import UsageReports.Plan.Packing
import UsageReports.Provider

/-!
# Settings

What a user may set: how reports are harvested, how they are asked for over HTTP, where the database
is, what is logged, and the providers. Everything has a default. `Settings.validate` finds settings
that make no sense.
-/

namespace UsageReports

/-- How reports are harvested. -/
structure HarvestSettings where
  maxConcurrency : Nat := 4
  rateLimitAttempts : Nat := 3
  maxRangeMonths : Nat := 12
  maxConcurrentProviders : Nat := 2
  rateLimitBackoff : Nat := 1000
  maxBackoff : Nat := 30000
  channelSize : Nat := 256

/-- How reports are asked for over HTTP. The time is in seconds. -/
structure HttpSettings where
  requestTimeout : Nat := 30
  requestsPerSecond : Nat := 2
  userAgent : String := "usage-harvester/0.1.0"

/-- What is logged, and how. -/
structure LoggingSettings where
  level : String := "info"
  format : String := "text"

/-- All settings. -/
structure Settings where
  harvest : HarvestSettings := {}
  http : HttpSettings := {}
  databasePath : String := "data/harvester.db"
  logging : LoggingSettings := {}
  providers : List Provider := []

/-- How one run over a provider's plan goes. -/
structure RunSettings where
  maxConcurrency : Nat := 4
  rateLimitAttempts : Nat := 3
  backoff : Backoff := {}
  channelSize : Nat := 256

namespace HarvestSettings

/-- The settings of a run. -/
def run (h : HarvestSettings) : RunSettings :=
  { maxConcurrency := h.maxConcurrency
    rateLimitAttempts := h.rateLimitAttempts
    backoff :=
      { maxRetries := h.rateLimitAttempts, base := h.rateLimitBackoff, longest := h.maxBackoff }
    channelSize := h.channelSize }

/-- How months are joined into ranges. -/
def packing (h : HarvestSettings) : Packing := { maxMonths := h.maxRangeMonths }

end HarvestSettings

/-- What makes no sense about some settings. -/
inductive SettingsError where
  | notPositive (name : String)
  | noRequests
  | declaredTwice (provider tenant : String)
deriving DecidableEq

/-- The error as it is reported. -/
def SettingsError.message : SettingsError → String
  | .notPositive name => s!"{name} must be greater than 0"
  | .noRequests => "requests_per_second must be positive"
  | .declaredTwice provider tenant =>
    s!"provider '{provider}' is declared twice for tenant '{tenant}'"

namespace Settings

/-- The first provider that an earlier one has the tenant and id of. -/
def duplicate? (seen : List (String × String)) : List Provider → Option Provider
  | [] => none
  | p :: ps =>
    if (p.tenant, p.id) ∈ seen then some p else duplicate? ((p.tenant, p.id) :: seen) ps

/-- The first number that must be positive and is not. -/
def zeroField? (h : HarvestSettings) : Option String :=
  [("max_concurrency", h.maxConcurrency), ("rate_limit_attempts", h.rateLimitAttempts),
    ("max_range_months", h.maxRangeMonths),
    ("max_concurrent_providers", h.maxConcurrentProviders),
    ("channel_buffer_size", h.channelSize)].findSome? fun (name, n) =>
      if n = 0 then some name else none

/-- Find what makes no sense. -/
def validate (s : Settings) : Except SettingsError Unit :=
  match zeroField? s.harvest with
  | some name => .error (.notPositive name)
  | none =>
    if s.http.requestsPerSecond = 0 then .error .noRequests
    else match duplicate? [] s.providers with
      | some p => .error (.declaredTwice p.id p.tenant)
      | none => .ok ()

/-- The first provider that is declared with a tenant and an id. -/
def provider? (s : Settings) (tenant id : String) : Option Provider :=
  s.providers.find? fun p => p.tenant = tenant && p.id = id

end Settings

end UsageReports
