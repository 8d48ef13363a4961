import UsageReports.Job.Summary

/-!
# Jobs as JSON

The written forms of job keys and of what came of provider runs.
-/

namespace UsageReports

/-- A job key. -/
def JobKey.toJson (k : JobKey) : Json :=
  let scope := ("scope", Json.str k.scope)
  Json.object
    [("tenant_id", .str k.tenant),
      ("scope", Json.object <| scope :: (k.provider.map fun p => ("provider_id", Json.str p)).toList)]

/-- What a run has done, with the limit in force at its end. -/
def Tally.toJson (t : Tally) (limit : Nat) : Json :=
  Json.object
    [("ranges_fetched", .int t.fetched), ("success_records", .int t.successes),
      ("placeholder_records", .int t.placeholders), ("rate_limited", .int t.rateLimited),
      ("narrowed", .int t.narrowed), ("final_concurrency", .int limit), ("total", .int t.records)]

/-- What came of one provider. -/
def ProviderRun.toJson (r : ProviderRun) : Json :=
  Json.object
    [("provider_id", .str r.provider), ("ranges_planned", .int r.planned),
      ("stats", r.tally.toJson r.limit), ("records_written", .int r.writes.written),
      ("write_failures", .int r.writes.failures), ("skipped", .bool r.skipped)]

end UsageReports
