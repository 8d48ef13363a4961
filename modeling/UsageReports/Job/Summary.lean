import UsageReports.Data.Total
import UsageReports.Harvest.ProviderRun
import UsageReports.Job.Registry

/-!
# Job summaries

What came of a job, provider by provider, and how it is shown.
-/

namespace UsageReports

/-- What became of one provider of a job: it was not started, or it ended well or badly. -/
structure Outcome where
  provider : String
  result : Option (Except JobError ProviderRun)

/-- What came of a job. -/
structure Summary where
  job : Nat
  key : JobKey
  /-- The providers that were run. -/
  runs : List ProviderRun
  /-- The providers that failed, and why. -/
  failed : List (String × JobError)
  /-- The providers that were not started, because the job was cancelled. -/
  notStarted : List String
  cancelled : Bool

namespace Summary

/-- A tenant job's summary: what ran in the order of providers, what failed in the order of
failing. -/
def ofOutcomes (job : Nat) (key : JobKey) (cancelled : Bool) (outcomes : List Outcome) : Summary :=
  let runs := outcomes.filterMap fun o =>
    match o.result with
    | some (.ok run) => some run
    | _ => none
  let failed := outcomes.filterMap fun o =>
    match o.result with
    | some (.error e) => some (o.provider, e)
    | _ => none
  let notStarted := outcomes.filterMap fun o =>
    match o.result with
    | none => some o.provider
    | _ => none
  { job, key, failed, cancelled
    runs := runs.mergeSort fun a b => a.provider ≤ b.provider
    notStarted := notStarted.mergeSort fun a b => a ≤ b }

/-- All records written. -/
def written (s : Summary) : Nat := total (s.runs.map (·.writes.written))

/-- All placeholders emitted. -/
def placeholders (s : Summary) : Nat := total (s.runs.map (·.tally.placeholders))

/-- One line for a provider that was run. -/
def runLine (r : ProviderRun) : String :=
  if r.skipped then s!"{r.provider}: skipped (not active)\n"
  else
    s!"{r.provider}: {r.planned} ranges, {r.tally.successes} ok, " ++
      s!"{r.tally.placeholders} placeholders, {r.writes.written} written, concurrency {r.limit}\n"

/-- A summary as it is shown, the job under a name of its own. -/
def text (s : Summary) (job : String) : String :=
  s!"Job {job} ({s.key.text})\n" ++ String.ofList (List.replicate 40 '-') ++ "\n" ++
    String.join (s.runs.map runLine) ++
    String.join (s.failed.map fun (provider, e) => s!"{provider}: failed: {e.message}\n") ++
    String.join (s.notStarted.map fun provider => s!"{provider}: not started (cancelled)\n")

end Summary

/-- Who asked for a job. -/
inductive Origin where
  | manual
  | periodic
deriving DecidableEq

/-- The name of an origin. -/
def Origin.text : Origin → String
  | .manual => "manual"
  | .periodic => "periodic"

/-- What the history tells of a job. -/
inductive JobEvent where
  | started
  | finished (summary : Summary)
  | failed (cause : JobError)

/-- The name of an event. -/
def JobEvent.label : JobEvent → String
  | .started => "started"
  | .finished summary => if summary.cancelled then "cancelled" else "finished"
  | .failed _ => "failed"

/-- The event of a job's end. -/
def JobEvent.ofResult : Except JobError Summary → JobEvent
  | .ok summary => .finished summary
  | .error e => .failed e

/-- An entry in the history of jobs. -/
structure HistoryEntry where
  job : Nat
  key : JobKey
  origin : Origin
  event : JobEvent

end UsageReports
