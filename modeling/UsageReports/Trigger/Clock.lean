import UsageReports.Trigger.Scheduler

/-!
# Timers on a clock

A scheduler whose timers wait on a clock that moves only when everything waits. Stale timers are cut
off; every other timer goes on until it has to wait, in the order in which the timers were started.
The calendar stands still.
-/

namespace UsageReports

/-- A scheduler, its clock in nanoseconds, and the instant that the calendar shows. -/
structure Clock where
  scheduler : Scheduler
  elapsed : Nat := 0
  now : Instant

namespace Clock

/-- The next step of a timer, if it need not wait. -/
def step (c : Clock) (generation : Nat) : Clock :=
  let s := c.scheduler
  match (s.timer? generation).map Timer.stage with
  | some .planning => { c with scheduler := s.arm generation c.now c.elapsed }
  | some (.waiting _ due) =>
    if due ≤ c.elapsed then { c with scheduler := s.fire generation } else c
  | some (.sending _) => { c with scheduler := s.send generation }
  | none => c

/-- Let a timer go on until it has to wait: it plans, fires if it is late, sends, and plans
again. -/
def advance (c : Clock) (generation : Nat) : Clock :=
  (((c.step generation).step generation).step generation).step generation

/-- The generations of the timers. -/
def generations (c : Clock) : List Nat := c.scheduler.timers.map Timer.generation

/-- Cut off every stale timer. -/
def cutOffStale (c : Clock) : Clock :=
  { c with scheduler := c.generations.foldl Scheduler.cutOff c.scheduler }

/-- Let every timer go on until it has to wait. -/
def settle (c : Clock) : Clock :=
  let c := c.cutOffStale
  c.generations.foldl advance c

/-- When the first waiting timer is due. -/
def due? (c : Clock) : Option Nat :=
  ((c.scheduler.timers.filter c.scheduler.isLive).filterMap fun t =>
    match t.stage with
    | .waiting _ due => some due
    | _ => none).min?

/-- Let time pass until a timer fires, and take its firing. -/
def nextFiring (c : Clock) : Option Firing × Clock :=
  if c.scheduler.isClosed then (none, c)
  else
    let c := c.settle
    let c :=
      if c.scheduler.sent.isEmpty then
        match c.due? with
        | none => c
        | some due => settle { c with elapsed := max c.elapsed due }
      else c
    let (firing, scheduler) := c.scheduler.receive
    (firing, { c with scheduler })

/-- Let the clock go on to `target`, with at most so many stops on the way. -/
def runTo (target : Nat) (c : Clock) : Nat → Clock
  | 0 => { c with elapsed := target }
  | stops + 1 =>
    let c := c.settle
    match c.due? with
    | none => { c with elapsed := target }
    | some due =>
      if due ≤ target then runTo target { c with elapsed := max c.elapsed due } stops
      else { c with elapsed := target }

/-- Let time pass. A timer stops when nobody takes its firing, or when there is no room for it,
which bounds how often the clock has to stop on the way. -/
def elapse (c : Clock) (nanos : Nat) : Clock :=
  c.runTo (c.elapsed + nanos) (c.scheduler.timers.length + Scheduler.maxSent + 1)

end Clock

end UsageReports
