import UsageReports.Calendar.RangeError
import UsageReports.Failure
import UsageReports.Settings.Settings

/-!
# Errors of commands

Why a command stopped early.
-/

namespace UsageReports

/-- Why a command stopped early. -/
inductive CommandError where
  | unreadable (path : String)
  | unparsable (path : String)
  | invalid (cause : SettingsError)
  | badLogLevel
  | noRecordStore (path : String)
  | noTriggerStore (path : String)
  | undeclared (provider tenant : String)
  | notStarted (cause : JobError)
  | badStart (text : String)
  | noTrigger (tenant : String)
  | badMonth (cause : RangeError)
  | store (cause : StoreError)
  | trigger (cause : TriggerError)
  | job (cause : JobError)
  | failed (cause : Failure)

namespace CommandError

/-- The error as it is reported. -/
def message : CommandError → String
  | unreadable path => s!"Failed to read config file: {path}"
  | unparsable path => s!"Failed to parse TOML config file: {path}"
  | invalid _ => "Invalid configuration"
  | badLogLevel => "invalid filter directive"
  | noRecordStore path => s!"Failed to open report store at {path}"
  | noTriggerStore path => s!"Failed to open trigger store at {path}"
  | undeclared provider tenant => s!"Provider '{provider}' not configured for tenant '{tenant}'"
  | notStarted cause => s!"Harvest not started: {cause.message}"
  | badStart text => s!"Invalid start instant: {text}"
  | noTrigger tenant => s!"No trigger configured for tenant '{tenant}'"
  | badMonth cause => cause.message
  | store cause => cause.message
  | trigger cause => cause.message
  | job cause => cause.message
  | failed cause => cause.message

/-- What is behind an error that does not say it. -/
def cause? : CommandError → Option String
  | invalid cause => some cause.message
  | _ => none

/-- The error with what is behind it. -/
def fullMessage (e : CommandError) : String :=
  match e.cause? with
  | some cause => s!"{e.message}: {cause}"
  | none => e.message

end CommandError

end UsageReports
