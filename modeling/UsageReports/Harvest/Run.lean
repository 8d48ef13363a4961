import UsageReports.Harvest.Reply
import UsageReports.Metrics
import UsageReports.Pace.Limit
import UsageReports.Settings.Settings

/-!
# Runs

A run fetches the ranges of a provider's plan, several at once, and emits one record for each of
their months. A run is a value; `Run.fill` launches what the limit allows, and `Run.settle` takes in
the reply to any one of the fetches in flight. In what order replies come is not decided here, so
that every order is a sequence of these two steps.

A range that the source has no time for is asked for again, ahead of all others, and the limit falls
to one. A range that it refuses is asked for month by month. What fails otherwise is given up for
this run, with a placeholder for each month.
-/

namespace UsageReports

/-- A range to fetch, and how often the source has answered that it has no time for it. -/
structure FetchTask where
  range : Range
  attempts : Nat
deriving DecidableEq

/-- A range that has not been asked for. -/
def FetchTask.fresh (range : Range) : FetchTask := ⟨range, 0⟩

/-- What a run has done so far. -/
structure Tally where
  /-- Fetches that brought records. -/
  fetched : Nat := 0
  successes : Nat := 0
  placeholders : Nat := 0
  /-- Replies that the source has no time. -/
  rateLimited : Nat := 0
  /-- Ranges that were split into months. -/
  narrowed : Nat := 0
deriving DecidableEq

namespace Tally

/-- All records emitted. -/
def records (t : Tally) : Nat := t.successes + t.placeholders

/-- Count an emitted record. -/
def emit (t : Tally) (r : Record) : Tally :=
  if r.isFailure then { t with placeholders := t.placeholders + 1 }
  else { t with successes := t.successes + 1 }

end Tally

/-- A run over a provider's plan. `inFlight` is in the order of launching, `emitted` in the order of
emission. -/
structure Run where
  provider : String
  settings : RunSettings
  limit : Limit
  pending : List FetchTask
  inFlight : List FetchTask := []
  emitted : List Record := []
  tally : Tally := {}
  measures : List Measure := []
  /-- Whether anyone takes the records. -/
  receiving : Bool := true

namespace Run

/-- A run that has launched nothing yet. -/
def ofPlan (settings : RunSettings) (provider : String) (plan : List Range) : Run :=
  { provider, settings, limit := .ofMax settings.maxConcurrency
    pending := plan.map FetchTask.fresh }

/-- The same run with nobody to take its records. -/
def abandoned (r : Run) : Run := { r with receiving := false }

/-- How many more fetches may be launched now. -/
def room (r : Run) : Nat := r.limit.current - r.inFlight.length

/-- Launch pending fetches, in order, as far as the limit allows. -/
def fill (r : Run) : Run :=
  { r with inFlight := r.inFlight ++ r.pending.take r.room, pending := r.pending.drop r.room }

/-- Whether nothing is left to do. -/
def isOver (r : Run) : Bool := r.pending.isEmpty && r.inFlight.isEmpty

/-- Note something that is counted. -/
def measure (r : Run) (m : Measure) : Run := { r with measures := r.measures ++ [m] }

/-- Emit records. If nobody takes them the first one ends the run. -/
def emit (r : Run) (records : List Record) : Run :=
  if r.receiving then
    { r with emitted := r.emitted ++ records, tally := records.foldl Tally.emit r.tally }
  else match records with
    | [] => r
    | first :: _ => { r with tally := r.tally.emit first, pending := [], inFlight := [] }

/-- Take in the records that a fetch brought. -/
def accept (r : Run) (task : FetchTask) (returned : List Record) : Run :=
  let r := r.measure (.fetched r.provider "success")
  { r with tally.fetched := r.tally.fetched + 1 }.emit (task.range.filed r.provider returned)

/-- Give a range up for this run. -/
def giveUp (r : Run) (task : FetchTask) (reason : String) : Run :=
  (r.measure (.fetched r.provider "failure")).emit (task.range.placeholders r.provider reason)

/-- Take in that a range was refused: ask for its months one by one, or give up its only month. -/
def reject (r : Run) (task : FetchTask) (reason : String) : Run :=
  let r := r.measure (.fetched r.provider "invalid_report")
  if task.range.isSingle then r.emit (task.range.placeholders r.provider reason)
  else
    { r with
      tally.narrowed := r.tally.narrowed + 1
      pending := r.pending ++ task.range.expand.map FetchTask.fresh }

/-- The wording for a range that was never answered. -/
def outOfAttempts (attempts : Nat) : String := s!"rate limited after {attempts} attempts"

/-- Slow down, as the source asks. -/
def slower (r : Run) : Run :=
  { r with
    limit := r.limit.lowered
    tally.rateLimited := r.tally.rateLimited + 1
    measures := r.measures ++ .fetched r.provider "rate_limited" ::
      if r.limit.canLower then [.throttled r.provider] else [] }

/-- Ask again, ahead of all others, for a range that the source had no time for; without attempts
left the range counts as refused. -/
def askAgain (r : Run) (task : FetchTask) : Run :=
  if task.attempts < r.settings.rateLimitAttempts then { r with pending := task :: r.pending }
  else r.reject task (outOfAttempts task.attempts)

/-- Take in what a fetch brought. -/
def take (r : Run) (task : FetchTask) : Except FetchError (List Record) → Run
  | .ok returned => r.accept task returned
  | .error .rateLimited => r.slower.askAgain { task with attempts := task.attempts + 1 }
  | .error (.invalidReport reason) => r.reject task reason
  | .error (.failure reason) => r.giveUp task reason

/-- Take in the reply to the fetch at a place among those in flight. -/
def settle (r : Run) (i : Nat) (reply : Reply) : Run :=
  match r.inFlight[i]? with
  | none => r
  | some task => { r with inFlight := r.inFlight.eraseIdx i }.take task reply.result

/-- What a finished run adds to the metrics: everything it noted, its records and its duration. -/
def finalMeasures (r : Run) : List Measure :=
  r.measures ++
    [.records r.provider r.tally.successes r.tally.placeholders, .timed r.provider]

end Run

end UsageReports
