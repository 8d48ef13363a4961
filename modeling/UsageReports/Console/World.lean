import UsageReports.Console.CommandError
import UsageReports.Console.Disk
import UsageReports.Harvest.Catalog
import UsageReports.Job.Service
import UsageReports.Settings.Sources

/-!
# The world of a command

What a command finds around it: a disk, a network and the present instant. A command reads its
settings, opens the service over the stores that they name, and leaves behind what these have
become.
-/

namespace UsageReports

/-- What a command finds around it. `names` gives jobs the names that are shown. -/
structure World (σ : Type) where
  disk : Disk
  network : Network σ
  state : σ
  now : Instant
  names : Nat → String

/-- What a command printed, and why it stopped early if it did. -/
structure Printout where
  text : String
  error : Option CommandError := none

namespace Printout

/-- A command that printed something and came to its end. -/
def done (text : String) : Printout := { text }

/-- A command that stopped before it printed anything. -/
def stopped (e : CommandError) : Printout := { text := "", error := some e }

end Printout

/-- The settings that a command reads: those of a file, or those of the environment. -/
def Disk.settings (d : Disk) (config : Option String) (lookup : String → Option String) :
    Except CommandError Settings := do
  let settings ← match config with
    | none => pure (.ofEnvironment lookup)
    | some path =>
      match d.text? path with
      | none => .error (.unreadable path)
      | some text =>
        match Settings.ofToml? text with
        | none => .error (.unparsable path)
        | some settings => pure settings
  match settings.validate with
  | .error cause => .error (.invalid cause)
  | .ok () => pure settings

namespace World

variable {σ : Type}

/-- The last month that is over. -/
def lastCompleted (w : World σ) : Month := .lastCompleted w.now.date

/-- What harvests are carried out with: sources over HTTP. -/
def outfit (w : World σ) (settings : Settings) : Outfit σ :=
  let catalog := Catalog.http settings.http
  { settings := settings.harvest
    lastCompleted := w.lastCompleted
    create := fun p => (catalog.create p).map fun _ => ()
    fetch := fun p state range =>
      match catalog.create p with
      | .error e => (.refused (.failure e.message), state)
      | .ok source =>
        let (result, state) := source.fetch w.network range state
        (.ofResult result, state) }

/-- Open the service over the stores that the settings name. -/
def openService (w : World σ) (settings : Settings) :
    Except CommandError (Service σ) × World σ :=
  let path := settings.databasePath
  match w.disk.openDatabase path with
  | (.error _, disk) => (.error (.noRecordStore path), { w with disk })
  | (.ok content, disk) =>
    match disk.openDatabase path with
    | (.error _, disk) => (.error (.noTriggerStore path), { w with disk })
    | (.ok _, disk) =>
      let harvester : Harvester σ :=
        { directory := ⟨settings.providers⟩, records := { archive := .table content.records }
          source := w.state }
      let scheduler : Scheduler := .ofStore { archive := .table content.triggers }
      (.ok { harvester, clock := { scheduler, now := w.now } }, { w with disk })

/-- Leave behind what the stores of a service have become. -/
def leave (w : World σ) (settings : Settings) (service : Service σ) : World σ :=
  let records := match service.harvester.records.archive with
    | .table rows => rows
    | .memory _ => .empty
  let triggers := match service.clock.scheduler.store.archive with
    | .table rows => rows
    | .memory _ => .empty
  { w with disk := w.disk.keep settings.databasePath ⟨records, triggers⟩
           state := service.harvester.source }

/-- Run a command over a service, and leave behind what it makes of it. -/
def withService (w : World σ) (settings : Settings) (run : Service σ → Printout × Service σ) :
    Printout × World σ :=
  match w.openService settings with
  | (.error e, w) => (.stopped e, w)
  | (.ok service, w) =>
    let (printout, service) := run service
    (printout, w.leave settings service)

end World

end UsageReports
