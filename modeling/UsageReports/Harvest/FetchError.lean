import UsageReports.Text.Blank

/-!
# Errors of fetching

Why a fetch brought no records, and why there is no fetcher for a provider.
-/

namespace UsageReports

/-- Why a fetch brought no records. -/
inductive FetchError where
  /-- The source asks to slow down. -/
  | rateLimited
  /-- The source refuses this report; fewer months may be accepted. -/
  | invalidReport (reason : String)
  /-- Anything else. -/
  | failure (reason : String)
deriving DecidableEq

namespace FetchError

/-- The failure that an error of another kind becomes: its text, or its inner form where the text is
blank. -/
def ofError (shown described : String) : FetchError :=
  if trim shown.toList = [] then .failure described else .failure shown

/-- The reason that is recorded. -/
def reason : FetchError → String
  | rateLimited => "rate limited by remote source"
  | invalidReport reason => reason
  | failure reason => reason

/-- The error as it is reported. -/
def message : FetchError → String
  | rateLimited => "Rate limited by remote source"
  | invalidReport reason => s!"Invalid report: {reason}"
  | failure reason => reason

/-- Whether the same fetch may succeed later. -/
def isRecoverable : FetchError → Bool
  | invalidReport _ => false
  | _ => true

end FetchError

/-- Why there is no fetcher for a provider. -/
inductive SourceError where
  | unknownService (serviceType : String)
  | setup (provider reason : String)
deriving DecidableEq

/-- The error as it is reported. -/
def SourceError.message : SourceError → String
  | .unknownService serviceType =>
    s!"No report fetcher registered for service type '{serviceType}'"
  | .setup provider reason => s!"Failed to create fetcher for provider '{provider}': {reason}"

end UsageReports
