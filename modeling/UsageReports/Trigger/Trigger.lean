import UsageReports.Trigger.Interval
import UsageReports.Trigger.Rule

/-!
# Triggers

A trigger fires for a tenant at an interval, from a start on. The start fixes the time of day, and
the weekday or the day of the month. Firings that were missed are made good by one firing.
-/

namespace UsageReports

/-- A recurring trigger of a tenant. -/
structure Trigger where
  tenant : String
  interval : Interval
  start : Instant
  lastFired : Option Instant := none
deriving DecidableEq

namespace Trigger

/-- The last day that every month has. -/
def lastCommonDay : Nat := 28

/-- The rule of a trigger, at the hour and minute of its start. -/
def rule (t : Trigger) : Rule :=
  let time : TimeOfDay := ⟨t.start.secondOfDay / 60 * 60, 0⟩
  match t.interval with
  | .daily => .daily time
  | .weekly => .weekly (Weekday.ofDayNumber t.start.dayNumber) time
  | .monthly =>
    if lastCommonDay < t.start.date.day then .monthlyLastDay time
    else .monthly t.start.date.day time

/-- From when on the trigger may fire: its start, or just after its last firing where that was not
before the start. -/
def effectiveStart (t : Trigger) : Instant :=
  match t.lastFired with
  | some last => if t.start ≤ last then last.next else t.start
  | none => t.start

/-- When to fire next, seen at `after`; at once where that time has passed. -/
def nextFire (t : Trigger) (after : Instant) : Instant :=
  Instant.latest (t.rule.firstAtOrAfter t.effectiveStart) after

/-- `count` firings by the rule, each the first after the one before it, from `last` on. -/
def following (r : Rule) (last : Instant) : Nat → List Instant
  | 0 => []
  | count + 1 =>
    let t := r.firstAtOrAfter last.next
    t :: following r t count

/-- The next `count` firings, seen at `after`. -/
def upcoming (t : Trigger) (after : Instant) : Nat → List Instant
  | 0 => []
  | count + 1 =>
    let first := t.nextFire after
    first :: following t.rule first count

end Trigger

end UsageReports
