import UsageReports.Console.World

/-!
# Commands

What a user can have done: a harvest, a look at what is still to be fetched, changes to triggers,
and the scheduler running. Each command prints what came of it.
-/

namespace UsageReports

/-- What can be done about the trigger of a tenant. -/
inductive TriggerAction where
  | set (tenant interval : String) (start : Option String)
  | delete (tenant : String)
  | next (tenant : String) (count : Nat)
deriving DecidableEq

/-- What a user can have done. -/
inductive Command where
  | serve
  /-- Harvest a tenant, or one of its providers. -/
  | harvest (tenant : String) (provider : Option String)
  /-- Show what a provider still needs, up to a month. -/
  | plan (tenant provider : String) (asOf : Option String)
  | trigger (action : TriggerAction)
deriving DecidableEq

namespace World

variable {σ : Type}

/-! ## Harvests -/

/-- What a finished harvest prints. -/
def harvestText (job : String) (s : Summary) : String :=
  s.text job ++ s!"\nTotal: {s.written} records written, {s.placeholders} placeholders\n"

/-- Start a job for a tenant or for one of its providers. -/
def startJob (h : Harvester σ) (tenant : String) (provider : Option String) :
    Except JobError (Nat × Harvester σ) :=
  match provider with
  | some provider => h.startProvider tenant provider
  | none => h.startTenant tenant .manual

/-- Harvest a tenant, or one of its providers. -/
def harvest (w : World σ) (settings : Settings) (tenant : String) (provider : Option String) :
    Printout × World σ :=
  w.withService settings fun service =>
    match startJob service.harvester tenant provider with
    | .error e =>
      (.stopped (if e.category = .admission then .notStarted e else .job e), service)
    | .ok (id, h) =>
      let job := w.names id
      let accepted := s!"Accepted job {job} ({(⟨tenant, provider⟩ : JobKey).text})\n"
      let h := h.carry (w.outfit settings) false id
      let printout := match h.result? id with
        | some (.ok summary) => .done (accepted ++ harvestText job summary)
        | some (.error e) => { text := accepted, error := some (.job e) }
        | none => .done accepted
      (printout, { service with harvester := h })

/-! ## Plans -/

/-- One line for a range of a plan. -/
def planLine (r : Range) : String := s!"  {r.text} ({r.length} months)\n"

/-- What a plan up to a month prints. -/
def planText (last : Month) : Except PlanError (List Range) → String
  | .error e => e.message ++ "\n"
  | .ok [] => s!"Nothing to harvest up to {last.text}\n"
  | .ok ranges =>
    s!"{ranges.length} ranges up to {last.text}:\n" ++ String.join (ranges.map planLine)

/-- The last month of a plan: the one that is given, or else the last that is over. -/
def planEnd (w : World σ) (asOf : Option String) : Except RangeError Month :=
  match asOf with
  | some text => Month.ofText text
  | none => .ok w.lastCompleted

/-- Show what a provider still needs. -/
def plan (w : World σ) (settings : Settings) (tenant provider : String) (asOf : Option String) :
    Printout × World σ :=
  match settings.provider? tenant provider with
  | none => (.stopped (.undeclared provider tenant), w)
  | some p =>
    match w.planEnd asOf with
    | .error e => (.stopped (.badMonth e), w)
    | .ok last =>
      match w.disk.openDatabase settings.databasePath with
      | (.error e, disk) => (.stopped (.store e), { w with disk })
      | (.ok content, disk) =>
        let records : RecordStore := { archive := .table content.records }
        match records.existingOf provider p.reportTypes with
        | .error e => (.stopped (.store e), { w with disk })
        | .ok existing =>
          (.done (planText last (p.plan settings.harvest.packing existing last)), { w with disk })

/-! ## Triggers -/

/-- Set the trigger of a tenant. -/
def setTrigger (service : Service σ) (tenant interval : String) (start : Option String)
    (now : Instant) : Except CommandError String × Service σ :=
  match Interval.ofText interval with
  | .error e => (.error (.trigger e), service)
  | .ok i =>
    match start.map Instant.ofText? with
    | some none => (.error (.badStart (start.getD "")), service)
    | given =>
      let start := given.join.getD now
      match service.setPeriodic tenant i start with
      | (.error e, service) => (.error (.failed (.trigger e)), service)
      | (.ok _, service) =>
        let (next, scheduler) := service.clock.scheduler.nextFire tenant now
        let service := { service with clock := { service.clock with scheduler } }
        match next with
        | .error e => (.error (.trigger e), service)
        | .ok next =>
          (.ok (s!"Trigger for '{tenant}' set: {i.text} from {start.plainText}\n" ++
            s!"Next fire: {next.plainText}\n"), service)

/-- Delete the trigger of a tenant. -/
def deleteTrigger (service : Service σ) (tenant : String) :
    Except CommandError String × Service σ :=
  match service.removePeriodic tenant with
  | (.error e, service) => (.error (.failed (.trigger e)), service)
  | (.ok (), service) => (.ok s!"Trigger for '{tenant}' deleted\n", service)

/-- Show when the trigger of a tenant fires next. -/
def nextFirings (service : Service σ) (tenant : String) (count : Nat) (now : Instant) :
    Except CommandError String × Service σ :=
  let (found, scheduler) := service.clock.scheduler.get tenant
  let service := { service with clock := { service.clock with scheduler } }
  match found with
  | .error e => (.error (.trigger e), service)
  | .ok none => (.error (.noTrigger tenant), service)
  | .ok (some t) =>
    (.ok (s!"Schedule: {t.rule.text}\n" ++
      String.join ((t.upcoming now count).map fun i => s!"  {i.plainText}\n")), service)

/-- Do something about the trigger of a tenant. -/
def trigger (w : World σ) (settings : Settings) (action : TriggerAction) : Printout × World σ :=
  w.withService settings fun service =>
    let (result, service) := match action with
      | .set tenant interval start => setTrigger service tenant interval start w.now
      | .delete tenant => deleteTrigger service tenant
      | .next tenant count => nextFirings service tenant count w.now
    match result with
    | .ok text => (.done text, service)
    | .error e => (.stopped e, service)

/-! ## The scheduler -/

/-- Start the scheduler, show its status, and do what is due at once. -/
def serve (w : World σ) (settings : Settings) : Printout × World σ :=
  w.withService settings fun service =>
    match service.clock.scheduler.start with
    | (.error e, scheduler) =>
      (.stopped (.trigger e), { service with clock := { service.clock with scheduler } })
    | (.ok (), scheduler) =>
      let clock := { service.clock with scheduler }.settle
      let due := clock.scheduler.sent.length
      let service := (List.range due).foldl (fun s _ => s.followNext) { service with clock }
      let harvester := service.harvester.carryAll (w.outfit settings) false
      (.done (scheduler.statusText ++ "\n"), { service with harvester })

/-- Do what a command says. -/
def run (w : World σ) (settings : Settings) : Command → Printout × World σ
  | .serve => w.serve settings
  | .harvest tenant provider => w.harvest settings tenant provider
  | .plan tenant provider asOf => w.plan settings tenant provider asOf
  | .trigger action => w.trigger settings action

end World

end UsageReports
