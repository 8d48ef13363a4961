import UsageReports.Console.Command
import UsageReports.Console.Help

/-!
# The program

The command line of the harvester: what its arguments mean, and what a run with them prints and ends
with.
-/

namespace UsageReports

namespace Program

/-- A tenant, which must be named. -/
def tenantOption (about : String) : OptionSpec :=
  { name := "tenant", letter := some 't', value := some "TENANT", about, isRequired := true }

/-- The options of all commands. -/
def shared : List OptionSpec :=
  [{ name := "config", letter := some 'c', value := some "CONFIG", accepts := (· ≠ "")
     about := "Configuration file (TOML); falls back to HARVESTER_* variables" },
    { name := "verbose", letter := some 'v', about := "Enable verbose logging" },
    { name := "log-format", value := some "LOG_FORMAT"
      about := "Log format (text, json); defaults to the configured format" }]

/-- The command that runs the scheduler. -/
def serve : CommandSpec := .mk "serve" "Run the trigger scheduler until interrupted" [] [] []

/-- The command that harvests. -/
def harvest : CommandSpec :=
  .mk "harvest" "Harvest a tenant, or one of its providers, and wait for the result"
    [tenantOption "Tenant to harvest",
      { name := "provider", letter := some 'p', value := some "PROVIDER"
        about := "Restrict the run to one provider" }] [] []

/-- The command that shows what is still to be fetched. -/
def plan : CommandSpec :=
  .mk "plan" "Print the fetch ranges a provider still needs"
    [tenantOption "",
      { name := "provider", letter := some 'p', value := some "PROVIDER", isRequired := true },
      { name := "as-of", value := some "AS_OF"
        about := "Plan as if this were the last completed month (YYYY-MM)" }] [] []

/-- How many firings are shown where no number is given. -/
def presetCount : Nat := 5

/-- The commands about triggers. -/
def trigger : CommandSpec :=
  .mk "trigger" "Manage periodic harvest triggers" [] []
    [.mk "set" "Create or replace a tenant's trigger"
      [tenantOption "",
        { name := "interval", letter := some 'i', value := some "INTERVAL", isRequired := true
          about := "daily, weekly or monthly" },
        { name := "start", letter := some 's', value := some "START"
          about := "Anchor instant (RFC 3339); defaults to now" }] [] [],
      .mk "delete" "Remove a tenant's trigger" [tenantOption ""] [] [],
      .mk "next" "Show upcoming fire times"
        [tenantOption "",
          { name := "count", letter := some 'n', value := some "COUNT"
            preset := some (toString presetCount)
            accepts := fun s => (uint64OfNumeral? s.toList).isSome }] [] []]

/-- The name of the program. -/
def name : String := "harvester"

/-- The version of the program. -/
def version : String := "0.1.0"

/-- The whole command line. -/
def spec : CommandSpec :=
  .mk name "Multi-tenant usage report harvester with periodic triggers" [] shared
    [serve, harvest, plan, trigger]

/-- The command that arguments mean. -/
def commandOf (a : Arguments) : Option Command :=
  match a.names with
  | ["serve"] => some .serve
  | ["harvest"] => do pure (.harvest (← a.value? "tenant") (a.value? "provider"))
  | ["plan"] => do pure (.plan (← a.value? "tenant") (← a.value? "provider") (a.value? "as-of"))
  | ["trigger", "set"] => do
    pure (.trigger (.set (← a.value? "tenant") (← a.value? "interval") (a.value? "start")))
  | ["trigger", "delete"] => do pure (.trigger (.delete (← a.value? "tenant")))
  | ["trigger", "next"] => do
    let count := ((a.value? "count").bind fun s => uint64OfNumeral? s.toList).getD presetCount
    pure (.trigger (.next (← a.value? "tenant") count))
  | _ => none

/-- The levels of logging by their names. -/
def logLevels : List String := ["off", "error", "warn", "info", "debug", "trace"]

/-- Whether something can be logged at a level: one of the names, or its number. -/
def isLogLevel (level : String) : Bool :=
  logLevels.contains (String.ofList (level.toList.map Char.toLower)) ||
    (natOfNumeral? level.toList).any (· < logLevels.length)

end Program

/-- How a run of the program ended: its exit code, what it printed, and the error if there was
one. -/
structure Exit where
  code : Nat
  text : String := ""
  error : Option CommandError := none

namespace Program

variable {σ : Type}

/-- How a run ends whose command printed something. -/
def exitOf (p : Printout) : Exit :=
  { code := if p.error.isSome then 1 else 0, text := p.text, error := p.error }

/-- Do what arguments mean. -/
def obey (w : World σ) (lookup : String → Option String) (a : Arguments) (c : Command) :
    Exit × World σ :=
  match w.disk.settings (a.value? "config") lookup with
  | .error e => (exitOf (.stopped e), w)
  | .ok settings =>
    if (a.value? "verbose").isNone && !isLogLevel settings.logging.level then
      (exitOf (.stopped .badLogLevel), w)
    else
      let (printout, w) := w.run settings c
      (exitOf printout, w)

/-- Run the program. Arguments that make no sense end it with code 2. -/
def run (w : World σ) (lookup : String → Option String) (args : List String) : Exit × World σ :=
  match Arguments.ofList spec args with
  | .error (.help names) => ({ code := 0, text := spec.helpAt shared [name] names }, w)
  | .error .version => ({ code := 0, text := s!"{name} {version}\n" }, w)
  | .error .misuse => ({ code := 2 }, w)
  | .ok a =>
    match commandOf a with
    | some c => obey w lookup a c
    | none => ({ code := 2 }, w)

end Program

end UsageReports
