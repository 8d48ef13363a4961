import UsageReports.Job.Summary
import UsageReports.Store.Directory

/-!
# The harvester

The harvester admits jobs and carries them out. A job goes through stages, one step each: it takes
its key, is entered as the periodic job of its tenant if it is one, is announced in the history,
begins one provider after the other, ends, is forgotten as a periodic job, has its end recorded, and
releases its key. Steps of different jobs may follow each other in any order.
-/

namespace UsageReports

/-- What keeps the providers of a tenant from being looked up. -/
inductive LookupFault where
  | failing (cause : StoreError)
  /-- Looking up breaks down, and whoever does it with it. -/
  | breaking
deriving DecidableEq

/-- Where a job stands. -/
inductive JobStage (σ : Type) where
  /-- It holds its key. -/
  | keyed
  /-- It is entered as a periodic job, if it is one. -/
  | entered
  /-- Its start is in the history. -/
  | started
  /-- Some providers wait, some are being fetched, some are done with. -/
  | running (pending : List Provider) (active : List (Fetching σ)) (outcomes : List Outcome)
  /-- Its result is known. -/
  | ended (result : Except JobError Summary)
  /-- It is no periodic job any more. -/
  | forgotten (result : Except JobError Summary)
  /-- Its end is in the history. -/
  | recorded (result : Except JobError Summary)

/-- A job that holds its key. A job for one provider carries it. -/
structure Job (σ : Type) where
  id : Nat
  key : JobKey
  origin : Origin
  provider : Option Provider
  isCancelled : Bool := false
  stage : JobStage σ := .keyed

/-- What came of a job: that of its provider, or a summary of all. -/
def Job.result {σ : Type} (j : Job σ) (outcomes : List Outcome) : Except JobError Summary :=
  match j.provider, outcomes with
  | some _, [⟨_, some (.error e)⟩] => .error e
  | some _, outcomes => .ok (.ofOutcomes j.id j.key false outcomes)
  | none, outcomes => .ok (.ofOutcomes j.id j.key j.isCancelled outcomes)

/-- The periodic job of a tenant. -/
structure PeriodicJob where
  tenant : String
  job : Nat
deriving DecidableEq

/-- The harvester: the keys that are held, the periodic jobs that may be cancelled, the history, the
jobs that hold keys, and the results of those that have ended. -/
structure Harvester (σ : Type) where
  directory : Directory
  lookupFaults : List (String × LookupFault) := []
  records : RecordStore
  source : σ
  registry : Registry := .empty
  periodic : List PeriodicJob := []
  history : List HistoryEntry := []
  jobs : List (Job σ) := []
  results : List (Nat × Except JobError Summary) := []
  nextJob : Nat := 0

namespace Harvester

variable {σ : Type}

/-- A job that holds its key. -/
def job? (h : Harvester σ) (id : Nat) : Option (Job σ) := Keyed.get? Job.id id h.jobs

/-- Replace a job. -/
def putJob (h : Harvester σ) (j : Job σ) : Harvester σ := { h with jobs := Keyed.put Job.id j h.jobs }

/-! ## Admission -/

/-- Let a new job hold a key; tells its number. -/
def accept (h : Harvester σ) (key : JobKey) (origin : Origin) (provider : Option Provider) :
    Except JobError (Nat × Harvester σ) :=
  match h.registry.acquire h.nextJob key with
  | .error e => .error e
  | .ok registry =>
    .ok (h.nextJob, { h with registry, nextJob := h.nextJob + 1
                             jobs := h.jobs ++ [{ id := h.nextJob, key, origin, provider }] })

/-- Enter a periodic job as that of its tenant. -/
def enter (h : Harvester σ) (id : Nat) : Harvester σ :=
  match h.job? id with
  | some j =>
    match j.stage with
    | .keyed =>
      let h := h.putJob { j with stage := .entered }
      match j.origin with
      | .periodic =>
        { h with periodic := Keyed.put PeriodicJob.tenant ⟨j.key.tenant, id⟩ h.periodic }
      | .manual => h
    | _ => h
  | none => h

/-- Add to the history of a job. -/
def note (h : Harvester σ) (j : Job σ) (event : JobEvent) : Harvester σ :=
  { h with history := h.history ++ [⟨j.id, j.key, j.origin, event⟩] }

/-- Announce a job. -/
def announce (h : Harvester σ) (id : Nat) : Harvester σ :=
  match h.job? id with
  | some j =>
    match j.stage with
    | .entered => (h.putJob { j with stage := .started }).note j .started
    | _ => h
  | none => h

/-- Start a job: take its key, enter it, announce it. -/
def start (h : Harvester σ) (key : JobKey) (origin : Origin) (provider : Option Provider) :
    Except JobError (Nat × Harvester σ) :=
  (h.accept key origin provider).map fun (id, h) => (id, (h.enter id).announce id)

/-- Start a job for all providers of a tenant. -/
def startTenant (h : Harvester σ) (tenant : String) (origin : Origin) :
    Except JobError (Nat × Harvester σ) :=
  h.start ⟨tenant, none⟩ origin none

/-- What keeps a tenant's providers from being looked up. -/
def lookupFault? (h : Harvester σ) (tenant : String) : Option LookupFault :=
  h.lookupFaults.lookup tenant

/-- Start a job for one provider. -/
def startProvider (h : Harvester σ) (tenant provider : String) :
    Except JobError (Nat × Harvester σ) :=
  match h.lookupFault? tenant with
  | some (.failing e) => .error (.store e)
  | _ =>
    match h.directory.byId? tenant provider with
    | none => .error (.providerNotFound tenant provider)
    | some p => h.start ⟨tenant, some provider⟩ .manual (some p)

/-- Let a job begin no further providers. -/
def cancel (h : Harvester σ) (id : Nat) : Harvester σ :=
  match h.job? id with
  | some j => h.putJob { j with isCancelled := true }
  | none => h

/-- Cancel the periodic job of a tenant; tells whether there was one. -/
def cancelPeriodic (h : Harvester σ) (tenant : String) : Bool × Harvester σ :=
  match Keyed.get? PeriodicJob.tenant tenant h.periodic with
  | some p =>
    (true, { h with periodic := Keyed.erase PeriodicJob.tenant tenant h.periodic }.cancel p.job)
  | none => (false, h)

/-! ## Running -/

/-- Release the key of a job, which is over. -/
def release (h : Harvester σ) (j : Job σ) (result : Except JobError Summary) : Harvester σ :=
  { h with
    registry := h.registry.release ⟨j.id, j.key⟩
    jobs := Keyed.erase Job.id j.id h.jobs
    results := h.results ++ [(j.id, result)] }

/-- Begin a started job: find out for which providers it is. A job that breaks down here releases
its key and leaves all else as it is. -/
def begin (h : Harvester σ) (id : Nat) : Harvester σ :=
  match h.job? id with
  | some j =>
    match j.stage with
    | .started =>
      match j.provider with
      | some p => h.putJob { j with stage := .running [p] [] [] }
      | none =>
        match h.lookupFault? j.key.tenant with
        | some (.failing e) => h.putJob { j with stage := .ended (.error (.store e)) }
        | some .breaking => h.release j (.error (.aborted (toString id) "panic"))
        | none => h.putJob { j with stage := .running (h.directory.active j.key.tenant) [] [] }
    | _ => h
  | none => h

/-- How many providers of a job may be fetched at once. -/
def room (o : Outfit σ) : Nat := max 1 o.settings.maxConcurrentProviders

/-- Begin the next provider of a job, if there is room for it. A cancelled tenant job begins
none. -/
def beginNext (o : Outfit σ) (h : Harvester σ) (id : Nat) : Harvester σ :=
  match h.job? id with
  | some j =>
    match j.stage with
    | .running (p :: pending) active outcomes =>
      if room o ≤ active.length then h
      else if j.isCancelled && j.provider.isNone then
        h.putJob { j with stage := .running pending active (outcomes ++ [⟨p.id, none⟩]) }
      else
        match o.opening h.records p with
        | .error e =>
          h.putJob
            { j with stage := .running pending active (outcomes ++ [⟨p.id, some (.error e)⟩]) }
        | .ok (.nothing run) =>
          h.putJob { j with stage := .running pending active (outcomes ++ [⟨p.id, some (.ok run)⟩]) }
        | .ok (.fetch plan) =>
          let f := o.launch p plan h.source
          { h with source := f.timeline.source }.putJob
            { j with stage := .running pending (active ++ [f]) outcomes }
    | _ => h
  | none => h

/-- Let the first provider that a job fetches come to its end. -/
def endFirst (o : Outfit σ) (h : Harvester σ) (id : Nat) : Harvester σ :=
  match h.job? id with
  | some j =>
    match j.stage with
    | .running pending (f :: active) outcomes =>
      let f := o.finish f h.source
      let (run, records) := o.conclude f h.records
      let outcome : Outcome := ⟨run.provider, some (.ok run)⟩
      { h with records, source := f.timeline.source }.putJob
        { j with stage := .running pending active (outcomes ++ [outcome]) }
    | _ => h
  | none => h

/-! ## Ending -/

/-- End a job that has no provider left. -/
def finish (h : Harvester σ) (id : Nat) : Harvester σ :=
  match h.job? id with
  | some j =>
    match j.stage with
    | .running [] [] outcomes => h.putJob { j with stage := .ended (j.result outcomes) }
    | _ => h
  | none => h

/-- Forget an ended job as the periodic job of its tenant, if it is still that. -/
def forget (h : Harvester σ) (id : Nat) : Harvester σ :=
  match h.job? id with
  | some j =>
    match j.stage with
    | .ended result =>
      let h := h.putJob { j with stage := .forgotten result }
      if j.origin = .periodic then
        { h with periodic := h.periodic.filter (· ≠ ⟨j.key.tenant, id⟩) }
      else h
    | _ => h
  | none => h

/-- Put the end of a job into the history. -/
def recordEnd (h : Harvester σ) (id : Nat) : Harvester σ :=
  match h.job? id with
  | some j =>
    match j.stage with
    | .forgotten result =>
      (h.putJob { j with stage := .recorded result }).note j (.ofResult result)
    | _ => h
  | none => h

/-- Release the key of a job whose end is recorded. -/
def leave (h : Harvester σ) (id : Nat) : Harvester σ :=
  match h.job? id with
  | some j =>
    match j.stage with
    | .recorded result => h.release j result
    | _ => h
  | none => h

/-- The result of a job that is over. -/
def result? (h : Harvester σ) (id : Nat) : Option (Except JobError Summary) := h.results.lookup id

end Harvester

end UsageReports
