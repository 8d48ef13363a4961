import UsageReports.Data.Sorted
import UsageReports.Text.Numeral

/-!
# Metrics

What a run of the program counts. A measure is one thing that happened; `Measure.increments` tells
which samples it raises, `Metrics.totals` adds them up.
-/

namespace UsageReports

/-- One thing that is counted. -/
inductive Measure where
  /-- An answer to a fetch. -/
  | fetched (provider outcome : String)
  /-- The records of a finished run. -/
  | records (provider : String) (successes placeholders : Nat)
  /-- A run that was told to slow down. -/
  | throttled (provider : String)
  /-- A finished run, whose duration was taken. -/
  | timed (provider : String)
  /-- A request for a job. -/
  | admission (scope result : String)
  /-- A firing of a trigger. -/
  | fired (interval : String)
  /-- The number of jobs that are running now. -/
  | running (count : Nat)
deriving DecidableEq

/-- A label value as it stands between quotes. -/
def escapedLabel (s : String) : String :=
  String.ofList <| s.toList.flatMap fun c =>
    match c with
    | '\\' => ['\\', '\\']
    | '"' => ['\\', '"']
    | '\n' => ['\\', 'n']
    | c => [c]

/-- The name of a sample with labels, which are given in the order of their names. -/
def sampleName (name : String) (labels : List (String × String)) : String :=
  let body := labels.map fun (k, v) => k ++ "=\"" ++ escapedLabel v ++ "\""
  name ++ "\x7b" ++ String.intercalate "," body ++ "\x7d"

namespace Measure

/-- The samples that a measure raises, and by how much. -/
def increments : Measure → List (String × Nat)
  | fetched provider outcome =>
    [(sampleName "harvester_fetch_outcomes_total" [("outcome", outcome), ("provider", provider)],
      1)]
  | records provider successes placeholders =>
    [(sampleName "harvester_records_total" [("kind", "success"), ("provider", provider)],
        successes),
      (sampleName "harvester_records_total" [("kind", "placeholder"), ("provider", provider)],
        placeholders)]
  | throttled provider =>
    [(sampleName "harvester_throttled_runs_total" [("provider", provider)], 1)]
  | timed provider =>
    [(sampleName "harvester_provider_run_duration_seconds_count" [("provider", provider)], 1)]
  | admission scope result =>
    [(sampleName "harvester_jobs_total" [("result", result), ("scope", scope)], 1)]
  | fired interval =>
    [(sampleName "harvester_triggers_fired_total" [("interval", interval)], 1)]
  | running _ => []

end Measure

namespace Metrics

/-- Add to the total of a sample. -/
def add (totals : List (String × Nat)) (sample : String × Nat) : List (String × Nat) :=
  match totals with
  | [] => [sample]
  | (name, n) :: rest =>
    if name = sample.1 then (name, n + sample.2) :: rest else (name, n) :: add rest sample

/-- How much each sample was raised, those that were not raised left out. -/
def totals (measures : List Measure) : List (String × Nat) :=
  ((measures.flatMap Measure.increments).foldl add []).filter (0 < ·.2)

/-- The last number of running jobs. -/
def running? (measures : List Measure) : Option Nat :=
  (measures.filterMap fun m => match m with | .running n => some n | _ => none).getLast?

end Metrics

end UsageReports
