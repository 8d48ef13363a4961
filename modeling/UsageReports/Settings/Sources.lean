import UsageReports.Settings.Settings
import UsageReports.Toml.Reader

/-!
# Where settings come from

Settings are read from a TOML document or from environment variables. What is left out keeps its
default. A variable that does not hold a number where one is wanted counts as left out, a document
that does is refused.
-/

namespace UsageReports

/-- Read the harvest section. -/
def HarvestSettings.ofData? (d : Data) : Option HarvestSettings := do
  let fs ← d.fields? ["max_concurrency", "rate_limit_attempts", "max_range_months",
    "max_concurrent_providers", "rate_limit_backoff_ms", "max_backoff_ms",
    "channel_buffer_size"] 7
  let base : HarvestSettings := {}
  let word (name : String) (value : Nat) := fs.withDefault name value (Data.nat? maxUInt64)
  let half (name : String) (value : Nat) := fs.withDefault name value (Data.nat? maxUInt32)
  let maxConcurrency ← word "max_concurrency" base.maxConcurrency
  let rateLimitAttempts ← half "rate_limit_attempts" base.rateLimitAttempts
  let maxRangeMonths ← half "max_range_months" base.maxRangeMonths
  let maxConcurrentProviders ← word "max_concurrent_providers" base.maxConcurrentProviders
  let rateLimitBackoff ← word "rate_limit_backoff_ms" base.rateLimitBackoff
  let maxBackoff ← word "max_backoff_ms" base.maxBackoff
  let channelSize ← word "channel_buffer_size" base.channelSize
  pure { maxConcurrency, rateLimitAttempts, maxRangeMonths, maxConcurrentProviders
         rateLimitBackoff, maxBackoff, channelSize }

/-- Read the HTTP section. -/
def HttpSettings.ofData? (d : Data) : Option HttpSettings := do
  let fs ← d.fields? ["request_timeout_secs", "requests_per_second", "user_agent"] 3
  let base : HttpSettings := {}
  let requestTimeout ←
    fs.withDefault "request_timeout_secs" base.requestTimeout (Data.nat? maxUInt64)
  let requestsPerSecond ←
    fs.withDefault "requests_per_second" base.requestsPerSecond (Data.nat? maxUInt32)
  let userAgent ← fs.withDefault "user_agent" base.userAgent Data.text?
  pure { requestTimeout, requestsPerSecond, userAgent }

/-- Read the logging section. -/
def LoggingSettings.ofData? (d : Data) : Option LoggingSettings := do
  let fs ← d.fields? ["level", "format"] 2
  let base : LoggingSettings := {}
  let level ← fs.withDefault "level" base.level Data.text?
  let format ← fs.withDefault "format" base.format Data.text?
  pure { level, format }

namespace Settings

/-- Read the path in the database section. -/
def databasePathOf? (d : Data) : Option String := do
  let fs ← d.fields? ["sqlite_path"] 1
  fs.withDefault "sqlite_path" ({} : Settings).databasePath Data.text?

/-- In TOML an empty table or list is the empty value. -/
def tomlEmpty : Data → Bool
  | .table [] | .list [] => true
  | _ => false

/-- Read all settings. -/
def ofData? (d : Data) : Option Settings := do
  let fs ← d.fields? ["harvest", "http", "database", "logging", "providers"] 5
  let harvest ← fs.withDefault "harvest" {} HarvestSettings.ofData?
  let http ← fs.withDefault "http" {} HttpSettings.ofData?
  let databasePath ← fs.withDefault "database" ({} : Settings).databasePath databasePathOf?
  let logging ← fs.withDefault "logging" {} LoggingSettings.ofData?
  let providers ← fs.withDefault "providers" [] (Data.list? (Provider.ofData? tomlEmpty))
  pure { harvest, http, databasePath, logging, providers }

/-- Read the settings of a TOML document. -/
def ofToml? (s : String) : Option Settings := (Toml.document? s).bind ofData?

/-- The settings of the environment; `lookup` gives a variable by its name. There are no
providers. -/
def ofEnvironment (lookup : String → Option String) : Settings :=
  let number (name : String) (read : List Char → Option Nat) (value : Nat) : Nat :=
    ((lookup ("HARVESTER_" ++ name)).bind fun s => read s.toList).getD value
  let text (name value : String) : String := (lookup ("HARVESTER_" ++ name)).getD value
  let base : Settings := {}
  { harvest :=
      { maxConcurrency := number "MAX_CONCURRENCY" uint64OfNumeral? base.harvest.maxConcurrency
        rateLimitAttempts :=
          number "RATE_LIMIT_ATTEMPTS" uint32OfNumeral? base.harvest.rateLimitAttempts
        maxRangeMonths := number "MAX_RANGE_MONTHS" uint32OfNumeral? base.harvest.maxRangeMonths
        maxConcurrentProviders :=
          number "MAX_CONCURRENT_PROVIDERS" uint64OfNumeral? base.harvest.maxConcurrentProviders
        rateLimitBackoff :=
          number "RATE_LIMIT_BACKOFF_MS" uint64OfNumeral? base.harvest.rateLimitBackoff
        maxBackoff := number "MAX_BACKOFF_MS" uint64OfNumeral? base.harvest.maxBackoff
        channelSize := number "CHANNEL_BUFFER_SIZE" uint64OfNumeral? base.harvest.channelSize }
    http :=
      { requestTimeout := number "REQUEST_TIMEOUT" uint64OfNumeral? base.http.requestTimeout
        requestsPerSecond :=
          number "REQUESTS_PER_SECOND" uint32OfNumeral? base.http.requestsPerSecond
        userAgent := text "USER_AGENT" base.http.userAgent }
    databasePath := text "SQLITE_PATH" base.databasePath
    logging := { level := text "LOG_LEVEL" base.logging.level
                 format := text "LOG_FORMAT" base.logging.format } }

end Settings

end UsageReports
