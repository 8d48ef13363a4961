import UsageReports.Json.Writer
import UsageReports.Settings.Settings

/-!
# Settings as JSON

The written form of settings, section by section.
-/

namespace UsageReports

/-- The harvest section. -/
def HarvestSettings.toJson (h : HarvestSettings) : Json :=
  Json.object
    [("max_concurrency", .int h.maxConcurrency), ("rate_limit_attempts", .int h.rateLimitAttempts),
      ("max_range_months", .int h.maxRangeMonths),
      ("max_concurrent_providers", .int h.maxConcurrentProviders),
      ("rate_limit_backoff_ms", .int h.rateLimitBackoff), ("max_backoff_ms", .int h.maxBackoff),
      ("channel_buffer_size", .int h.channelSize)]

/-- The HTTP section. -/
def HttpSettings.toJson (h : HttpSettings) : Json :=
  Json.object
    [("request_timeout_secs", .int h.requestTimeout),
      ("requests_per_second", .int h.requestsPerSecond), ("user_agent", .str h.userAgent)]

/-- All sections. -/
def Settings.toJson (s : Settings) : Json :=
  Json.object
    [("harvest", s.harvest.toJson), ("http", s.http.toJson),
      ("database", Json.object [("sqlite_path", .str s.databasePath)]),
      ("logging",
        Json.object [("level", .str s.logging.level), ("format", .str s.logging.format)]),
      ("providers", .arr (s.providers.map Provider.toJson))]

/-- The settings of a run. -/
def RunSettings.toJson (r : RunSettings) : Json :=
  Json.object
    [("max_concurrency", .int r.maxConcurrency), ("rate_limit_attempts", .int r.rateLimitAttempts),
      ("max_retries", .int r.backoff.maxRetries), ("base_delay_ms", .int r.backoff.base),
      ("max_delay_ms", .int r.backoff.longest), ("channel_buffer_size", .int r.channelSize)]

/-- How months are joined. -/
def Packing.toJson (p : Packing) : Json :=
  Json.object
    [("max_range_months", .int p.maxMonths), ("single", .arr (p.singleMonthTypes.map .str))]

end UsageReports
