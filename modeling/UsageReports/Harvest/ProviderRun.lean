import UsageReports.Harvest.Timeline
import UsageReports.Job.JobError
import UsageReports.Plan.Gap
import UsageReports.Store.RecordStore

/-!
# Provider runs

What is done for one provider: look up what is stored, plan what is missing, fetch it, and write
what the fetches emit, record by record in the order of emission.
-/

namespace UsageReports

/-- What a harvest is carried out with. `fetch` answers a fetch of a provider's range and changes
the state of the sources. -/
structure Outfit (σ : Type) where
  settings : HarvestSettings
  /-- How often a write is tried again. -/
  writeRetries : Nat := 3
  /-- The last month that is over. -/
  lastCompleted : Month
  /-- Whether there is a source for a provider. -/
  create : Provider → Except SourceError Unit
  fetch : Provider → σ → Range → Reply × σ

/-- What came of one provider. -/
structure ProviderRun where
  provider : String
  /-- Ranges planned. -/
  planned : Nat := 0
  tally : Tally := {}
  /-- The limit in force at the end. -/
  limit : Nat := 0
  writes : RecordStore.Written := {}
  /-- Whether the provider is not harvested at all. -/
  skipped : Bool := false
deriving DecidableEq

/-- How a provider run begins: it is done at once, or there is something to fetch. -/
inductive Opening where
  | nothing (run : ProviderRun)
  | fetch (plan : List Range)
deriving DecidableEq

/-- A provider run that is fetching. -/
structure Fetching (σ : Type) where
  provider : Provider
  planned : Nat
  timeline : Timeline σ

namespace Outfit

variable {σ : Type}

/-- Look up what is stored and plan what is missing. -/
def opening (o : Outfit σ) (records : RecordStore) (p : Provider) : Except JobError Opening :=
  match records.existingOf p.id p.reportTypes with
  | .error e => .error (.store e)
  | .ok existing =>
    match p.plan o.settings.packing existing o.lastCompleted with
    | .error _ => .ok (.nothing { provider := p.id, skipped := true })
    | .ok [] => .ok (.nothing { provider := p.id })
    | .ok plan =>
      match o.create p with
      | .error e => .error (.source e)
      | .ok () => .ok (.fetch plan)

/-- Begin to fetch: launch what the limit allows, and call the sources. -/
def launch (o : Outfit σ) (p : Provider) (plan : List Range) (source : σ) : Fetching σ :=
  { provider := p, planned := plan.length
    timeline := (Timeline.start (Run.ofPlan o.settings.run p.id plan) source).callAll (o.fetch p) }

/-- Let a provider's fetches come to their end. -/
def finish (o : Outfit σ) (f : Fetching σ) (source : σ) : Fetching σ :=
  { f with timeline := { f.timeline with source }.finish (o.fetch f.provider) }

/-- Write what a finished run has emitted. -/
def conclude (o : Outfit σ) (f : Fetching σ) (records : RecordStore) : ProviderRun × RecordStore :=
  let run := f.timeline.run
  let (writes, records) := records.persistAll o.writeRetries run.emitted
  ({ provider := f.provider.id, planned := f.planned, tally := run.tally
     limit := run.limit.current, writes }, records)

/-- Run a provider from beginning to end. -/
def runProvider (o : Outfit σ) (p : Provider) (records : RecordStore) (source : σ) :
    Except JobError ProviderRun × RecordStore × σ :=
  match o.opening records p with
  | .error e => (.error e, records, source)
  | .ok (.nothing run) => (.ok run, records, source)
  | .ok (.fetch plan) =>
    let f := o.launch p plan source
    let f := o.finish f f.timeline.source
    let (run, records) := o.conclude f records
    (.ok run, records, f.timeline.source)

end Outfit

end UsageReports
