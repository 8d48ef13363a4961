import Std.Time.DateTime.Timestamp
import UsageReports.Console.DatabaseText
import UsageReports.Console.Program

/-!
# The command

The program as it is run: it reads the files that a command needs, lets the library do the rest,
writes the database back and prints. No server can be reached from here, so every request stays
unsent.
-/

open UsageReports

namespace UsageReports.Program

/-- The present instant. -/
def now : IO Instant := do
  let nanos := (← Std.Time.Timestamp.now).toNanosecondsSinceUnixEpoch.toInt
  let fraction := (nanos % nanosPerSecond).toNat
  if h : fraction < 2000000000 then pure ⟨nanos / nanosPerSecond, fraction, h⟩ else pure default

/-- Put what a file holds onto a disk, where there is such a file. -/
def look (d : Disk) (path : String) : IO Disk := do
  try
    pure (d.put (placeOf path) (.ofText (← IO.FS.readFile path)))
  catch _ => pure d

/-- The environment variables that settings are read from. -/
def settingNames : List String :=
  ["MAX_CONCURRENCY", "RATE_LIMIT_ATTEMPTS", "MAX_RANGE_MONTHS", "MAX_CONCURRENT_PROVIDERS",
    "RATE_LIMIT_BACKOFF_MS", "MAX_BACKOFF_MS", "CHANNEL_BUFFER_SIZE", "REQUEST_TIMEOUT",
    "REQUESTS_PER_SECOND", "USER_AGENT", "SQLITE_PATH", "LOG_LEVEL", "LOG_FORMAT"].map
    ("HARVESTER_" ++ ·)

/-- The environment, as far as settings are read from it. -/
def environment : IO (String → Option String) := do
  let found ← settingNames.filterMapM fun name => do
    pure ((← IO.getEnv name).map (name, ·))
  pure fun name => found.lookup name

/-- Write back the database that a path names. -/
def writeBack (d : Disk) (path : String) : IO Unit := do
  match d.at? (placeOf path) with
  | some (.database content) =>
    let folder := "/".intercalate ((path.splitOn "/").dropLast)
    unless folder.isEmpty do IO.FS.createDirAll folder
    IO.FS.writeFile path content.text
  | _ => pure ()

/-- What a run finds, and the path of the database that its settings name. -/
def surroundings (args : List String) : IO (World Unit × (String → Option String) × Option String) := do
  let lookup ← environment
  let config := ((Arguments.ofList spec args).toOption).bind (·.value? "config")
  let disk ← match config with
    | some path => look ⟨[]⟩ path
    | none => pure ⟨[]⟩
  let path := (disk.settings config lookup).toOption.map Settings.databasePath
  let disk ← match path with
    | some path => look disk path
    | none => pure disk
  let world : World Unit :=
    { disk, network := fun _ state => (.closed, state), state := (), now := ← now, names := toString }
  pure (world, lookup, path)

/-- Run the program once, and leave the database as it has become. -/
def once (args : List String) : IO Exit := do
  let (world, lookup, path) ← surroundings args
  let (exit, world) := run world lookup args
  if let some path := path then writeBack world.disk path
  pure exit

/-- Go on doing what is due, once a minute. -/
partial def goOn (args : List String) : IO Unit := do
  IO.sleep 60000
  let _ ← once args
  goOn args

end UsageReports.Program

/-- Run the program: print what it says, and go on where it serves. -/
def main (args : List String) : IO UInt32 := do
  let exit ← Program.once args
  IO.print exit.text
  if let some e := exit.error then
    IO.eprintln s!"Error: {e.message}"
    if let some cause := e.cause? then IO.eprintln s!"\nCaused by:\n    {cause}"
  let serves := ((Arguments.ofList Program.spec args).toOption.bind Program.commandOf) = some .serve
  if serves ∧ exit.code = 0 then Program.goOn args
  pure (UInt32.ofNat exit.code)
