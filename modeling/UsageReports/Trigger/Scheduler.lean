import UsageReports.Calendar.InstantText
import UsageReports.Store.TriggerStore

/-!
# The scheduler of triggers

The scheduler keeps a timer for every stored trigger while it runs. A timer works out when to fire,
waits, notes the firing with the trigger, and sends it to whoever takes firings; then it starts
anew. Each of these is a step of its own, so that steps of many timers and the operations of the
scheduler may follow each other in any order.

Every timer has a generation of its own. A timer whose generation is no longer the scheduled one of
its tenant is stale: it was replaced, deleted or stopped. It may be cut off wherever it stands, with
the firing that it has noted and not sent; if it goes on it ends before it fires again.
-/

namespace UsageReports

/-- A firing of a tenant's trigger. -/
structure Firing where
  tenant : String
  interval : Interval
  time : Instant
deriving DecidableEq

/-- What a timer does next. -/
inductive TimerStage where
  /-- It works out when to fire. -/
  | planning
  /-- It waits until the clock shows `due`, to fire at `fireAt`. -/
  | waiting (fireAt : Instant) (due : Nat)
  /-- It has noted a firing and sends it. -/
  | sending (firing : Firing)
deriving DecidableEq

/-- A timer with its own copy of the trigger. -/
structure Timer where
  generation : Nat
  trigger : Trigger
  stage : TimerStage
deriving DecidableEq

/-- What the scheduler knows of a tenant's timer. -/
structure Scheduled where
  generation : Nat
  trigger : Trigger
  next : Option Instant
deriving DecidableEq

/-- The tenant of a scheduled trigger. -/
def Scheduled.tenant (s : Scheduled) : String := s.trigger.tenant

/-- A scheduler: the store of triggers, the scheduled ones, the timers, and the firings that were
sent and not yet received. -/
structure Scheduler where
  store : TriggerStore
  isRunning : Bool := false
  /-- The last generation given to a timer. -/
  generation : Nat := 0
  scheduled : List Scheduled := []
  timers : List Timer := []
  sent : List Firing := []
  /-- Whether nobody takes firings any more. -/
  isClosed : Bool := false
deriving DecidableEq

namespace Scheduler

/-- How many firings may wait to be received. -/
def maxSent : Nat := 64

/-- A stopped scheduler. -/
def ofStore (store : TriggerStore) : Scheduler := { store }

/-- What is scheduled for a tenant. -/
def scheduled? (s : Scheduler) (tenant : String) : Option Scheduled :=
  Keyed.get? Scheduled.tenant tenant s.scheduled

/-! ## Operations -/

/-- Give a trigger a new timer, in place of the one of its tenant. -/
def schedule (s : Scheduler) (t : Trigger) : Scheduler :=
  let generation := s.generation + 1
  { s with
    generation
    scheduled := Keyed.put Scheduled.tenant ⟨generation, t, none⟩ s.scheduled
    timers := s.timers ++ [⟨generation, t, .planning⟩] }

/-- Start a timer for every stored trigger. Starting again changes nothing. -/
def start (s : Scheduler) : Except TriggerError Unit × Scheduler :=
  if s.isRunning then (.ok (), s)
  else match s.store.list with
    | (.error e, store) => (.error e, { s with store })
    | (.ok triggers, store) => (.ok (), triggers.foldl schedule { s with store, isRunning := true })

/-- Stop every timer; what is stored stays. -/
def stop (s : Scheduler) : Scheduler :=
  if s.isRunning then { s with isRunning := false, scheduled := [] } else s

/-- Store a trigger, and give it a timer if the scheduler runs. Tells when it will fire then. -/
def place (s : Scheduler) (t : Trigger) (now : Instant) :
    Except TriggerError (Option Instant) × Scheduler :=
  match s.store.put t with
  | (.error e, store) => (.error e, { s with store })
  | (.ok (), store) =>
    let s := { s with store }
    if s.isRunning then (.ok (some (t.nextFire now)), s.schedule t) else (.ok none, s)

/-- Set a trigger as it is. -/
def upsert (s : Scheduler) (t : Trigger) (now : Instant) :
    Except TriggerError (Option Instant) × Scheduler :=
  match t.validate with
  | .error e => (.error e, s)
  | .ok () => s.place t now

/-- The later of two firings that may not have happened. -/
def latestFired (a b : Option Instant) : Option Instant :=
  match a, b with
  | some a, some b => some (a.latest b)
  | some a, none => some a
  | none, b => b

/-- Set the interval and start of a tenant's trigger and keep its last firing. -/
def reconfigure (s : Scheduler) (tenant : String) (interval : Interval) (start now : Instant) :
    Except TriggerError (Option Instant) × Scheduler :=
  let t : Trigger := { tenant, interval, start }
  match t.validate with
  | .error e => (.error e, s)
  | .ok () =>
    match s.store.get tenant with
    | (.error e, store) => (.error e, { s with store })
    | (.ok stored, store) =>
      let known := (s.scheduled? tenant).bind (·.trigger.lastFired)
      let t := { t with lastFired := latestFired known (stored.bind Trigger.lastFired) }
      { s with store }.place t now

/-- Remove a tenant's trigger and its timer. -/
def erase (s : Scheduler) (tenant : String) : Except TriggerError Unit × Scheduler :=
  match s.store.erase tenant with
  | (.error e, store) => (.error e, { s with store })
  | (.ok existed, store) =>
    let s' := { s with store, scheduled := Keyed.erase Scheduled.tenant tenant s.scheduled }
    if existed || (s.scheduled? tenant).isSome then (.ok (), s') else (.error (.notFound tenant), s')

/-- The stored trigger of a tenant. -/
def get (s : Scheduler) (tenant : String) : Except TriggerError (Option Trigger) × Scheduler :=
  let (found, store) := s.store.get tenant
  (found, { s with store })

/-- When a tenant's trigger fires next, seen now. -/
def nextFire (s : Scheduler) (tenant : String) (now : Instant) :
    Except TriggerError Instant × Scheduler :=
  match s.get tenant with
  | (.error e, s) => (.error e, s)
  | (.ok none, s) => (.error (.notFound tenant), s)
  | (.ok (some t), s) => (.ok (t.nextFire now), s)

/-! ## Steps of timers -/

/-- The timer of a generation. -/
def timer? (s : Scheduler) (generation : Nat) : Option Timer :=
  Keyed.get? Timer.generation generation s.timers

/-- End a timer. -/
def endTimer (s : Scheduler) (generation : Nat) : Scheduler :=
  { s with timers := Keyed.erase Timer.generation generation s.timers }

/-- Replace a timer and what is known of it. -/
def update (s : Scheduler) (t : Timer) (next : Option Instant) : Scheduler :=
  { s with
    timers := Keyed.put Timer.generation t s.timers
    scheduled := Keyed.put Scheduled.tenant ⟨t.generation, t.trigger, next⟩ s.scheduled }

/-- Whether a timer is the scheduled one of its tenant. -/
def isLive (s : Scheduler) (t : Timer) : Bool :=
  (s.scheduled? t.trigger.tenant).any (·.generation = t.generation)

/-- Cut off a stale timer where it stands. -/
def cutOff (s : Scheduler) (generation : Nat) : Scheduler :=
  match s.timer? generation with
  | some t => if s.isLive t then s else s.endTimer generation
  | none => s

/-- The time from one instant to another in nanoseconds, none backwards. -/
def nanosBetween (a b : Instant) : Nat :=
  ((b.second - a.second) * nanosPerSecond + (b.nanos - a.nanos)).toNat

/-- A timer works out when to fire; `clock` is what the clock that it waits on shows now. -/
def arm (s : Scheduler) (generation : Nat) (now : Instant) (clock : Nat) : Scheduler :=
  match s.timer? generation with
  | some t =>
    if t.stage = .planning then
      if s.isLive t then
        let fireAt := t.trigger.nextFire now
        s.update { t with stage := .waiting fireAt (clock + nanosBetween now fireAt) } (some fireAt)
      else s.endTimer generation
    else s
  | none => s

/-- A timer that has waited notes its firing, with the trigger and in the store. A store that fails
keeps nobody from firing. -/
def fire (s : Scheduler) (generation : Nat) : Scheduler :=
  match s.timer? generation with
  | some t =>
    match t.stage with
    | .waiting fireAt _ =>
      if s.isLive t then
        let trigger := { t.trigger with lastFired := some fireAt }
        let firing : Firing := ⟨trigger.tenant, trigger.interval, fireAt⟩
        { s with store := (s.store.put trigger).2 }.update
          ⟨generation, trigger, .sending firing⟩ none
      else s.endTimer generation
    | _ => s
  | none => s

/-- A timer sends the firing that it noted, when there is room; it ends when nobody takes it. -/
def send (s : Scheduler) (generation : Nat) : Scheduler :=
  match s.timer? generation with
  | some t =>
    match t.stage with
    | .sending firing =>
      if s.isClosed then s.endTimer generation
      else if s.sent.length < maxSent then
        { s with
          sent := s.sent ++ [firing]
          timers := Keyed.put Timer.generation { t with stage := .planning } s.timers }
      else s
    | _ => s
  | none => s

/-- Take the first firing that was sent. -/
def receive (s : Scheduler) : Option Firing × Scheduler :=
  match s.sent with
  | [] => (none, s)
  | f :: rest => (some f, { s with sent := rest })

/-- Take no more firings. -/
def close (s : Scheduler) : Scheduler := { s with sent := [], isClosed := true }

/-! ## Status -/

/-- What is scheduled, in the order of the tenants. -/
def status (s : Scheduler) : List Scheduled := s.scheduled.mergeSort fun a b => a.tenant ≤ b.tenant

/-- One line of the status. -/
def statusLine (s : Scheduled) : String :=
  let next := match s.next with
    | some t => t.text
    | none => "-"
  s!"{s.tenant} ({s.trigger.interval.text}): next {next}\n"

/-- The status as it is shown. -/
def statusText (s : Scheduler) : String :=
  "Scheduler Status\n" ++ String.ofList (List.replicate 40 '-') ++ "\n" ++
    s!"Running: {s.isRunning}\n" ++ String.join (s.status.map statusLine)

end Scheduler

end UsageReports
