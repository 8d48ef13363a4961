import Mathlib.Data.List.Chain
import UsageReports.Proofs.Trigger.Delivery
import UsageReports.Proofs.Trigger.Resumption

/-!
# The preview of firings

A trigger that notes each of its firings, and looks for the next one at the instant of the last,
fires as it was foretold: the preview goes from one occurrence of the rule to the next. A timer of
the scheduler does nothing else in round after round.
-/

namespace UsageReports

instance : Trans ((· < ·) : Instant → Instant → Prop) (· < ·) (· < ·) := ⟨Int.lt_trans⟩

namespace Trigger

/-- A trigger that has noted a firing. -/
def noting (t : Trigger) (f : Instant) : Trigger := { t with lastFired := some f }

/-- The firing of a trigger at an instant. -/
def firing (t : Trigger) (f : Instant) : Firing := ⟨t.tenant, t.interval, f⟩

@[simp] theorem firing_noting (t : Trigger) (f : Instant) : (t.noting f).firing = t.firing := rfl

@[simp] theorem noting_noting (t : Trigger) (f g : Instant) :
    (t.noting f).noting g = t.noting g := rfl

/-- The next `count` firings of a trigger that notes each of them and is seen again right then. -/
def firings (t : Trigger) (now : Instant) : Nat → List Instant
  | 0 => []
  | count + 1 => t.nextFire now :: (t.noting (t.nextFire now)).firings (t.nextFire now) count

/-- Whether the calendar reaches an occurrence of the rule each time that one is looked for. -/
def Reaches (t : Trigger) (now : Instant) : Nat → Prop
  | 0 => True
  | count + 1 => (∃ x, t.rule.Occurs x ∧ t.effectiveStart ≤ x ∧ x.InCalendar) ∧
    (t.noting (t.nextFire now)).Reaches (t.nextFire now) count

@[simp] theorem length_following (r : Rule) (last : Instant) (count : Nat) :
    (following r last count).length = count := by
  induction count generalizing last with
  | zero => rfl
  | succ count ih => rw [following, List.length_cons, ih]

@[simp] theorem length_upcoming (t : Trigger) (now : Instant) (count : Nat) :
    (t.upcoming now count).length = count := by
  cases count with
  | zero => rfl
  | succ count => rw [upcoming, List.length_cons, length_following]

/-! ## From one occurrence to the next -/

/-- Whether an instant is the first occurrence of a rule after another. -/
def IsNext (r : Rule) (f c : Instant) : Prop := IsLeast {x | r.Occurs x ∧ f < x} c

variable {t : Trigger} (hstart : t.start.InCalendar)
include hstart

/-- A trigger that has noted a firing, seen right then, fires next at the first occurrence after it;
this is how the preview goes on. -/
theorem nextFire_noting {f : Instant} (hf : t.start ≤ f)
    (hocc : ∃ x, t.rule.Occurs x ∧ (t.noting f).effectiveStart ≤ x ∧ x.InCalendar) :
    IsNext t.rule f (t.rule.firstAtOrAfter f.next) ∧
      (t.noting f).nextFire f = t.rule.firstAtOrAfter f.next := by
  have heffective : (t.noting f).effectiveStart = f.next := effectiveStart_of_fired hf
  rw [heffective] at hocc
  obtain ⟨x, hx, hfx, hin⟩ := hocc
  have hnext : IsNext t.rule f (t.rule.firstAtOrAfter f.next) :=
    isLeast_occurrence_next hstart hf ⟨x, hx, Int.lt_of_lt_of_le f.lt_next hfx, hin⟩
  refine ⟨hnext, ?_⟩
  rw [nextFire, heffective]
  exact Instant.latest_of_le (Int.le_of_lt hnext.1.2)

/-- What the preview has after a firing are the firings of the trigger that noted it, and each of
them is the next occurrence after the one before. -/
theorem following_eq_firings {f : Instant} (hf : t.start ≤ f) {count : Nat}
    (hreach : (t.noting f).Reaches f count) :
    following t.rule f count = (t.noting f).firings f count ∧
      (f :: following t.rule f count).IsChain (IsNext t.rule) := by
  induction count generalizing f with
  | zero => exact ⟨rfl, List.isChain_singleton f⟩
  | succ count ih =>
    obtain ⟨hocc, hrest⟩ := hreach
    obtain ⟨hnext, hsame⟩ := nextFire_noting hstart hf hocc
    rw [hsame, noting_noting] at hrest
    obtain ⟨hequal, hchain⟩ := ih (Int.le_trans hf (Int.le_of_lt hnext.1.2)) hrest
    refine ⟨?_, List.isChain_cons_cons.mpr ⟨hnext, hchain⟩⟩
    rw [following, firings, hsame, noting_noting, hequal]

/-- The preview is the list of the firings. Each but the first, which may be late, is the next
occurrence after the one before. -/
theorem isChain_upcoming {now : Instant} {count : Nat} (hreach : t.Reaches now count) :
    t.upcoming now count = t.firings now count ∧
      (t.upcoming now count).IsChain (IsNext t.rule) := by
  cases count with
  | zero => exact ⟨rfl, List.isChain_nil⟩
  | succ count =>
    obtain ⟨hocc, hrest⟩ := hreach
    have hf := Int.le_trans t.start_le_effectiveStart (effectiveStart_le_nextFire hstart hocc now)
    obtain ⟨hequal, hchain⟩ := following_eq_firings hstart hf hrest
    exact ⟨congrArg (t.nextFire now :: ·) hequal, hchain⟩

end Trigger

/-! ## Rounds of a timer -/

namespace Scheduler

/-- Whether the timer of a generation is the scheduled one of its tenant and stands at a stage, and
a firing may be sent. -/
structure Stands (s : Scheduler) (generation : Nat) (t : Trigger) (stage : TimerStage) : Prop where
  timer : s.timer? generation = some ⟨generation, t, stage⟩
  live : s.isLive ⟨generation, t, stage⟩ = true
  isOpen : s.isClosed = false
  room : s.sent.length < maxSent

/-- A timer works out when to fire, fires, and sends the firing, which is taken. -/
def round (generation : Nat) (now : Instant) (clock : Nat) : List SchedulerEvent :=
  [.arm generation now clock, .fire generation, .send generation, .receive]

/-- Rounds of a timer that begin at once when the last one has fired. The clock that the timer waits
on may show anything. -/
def rounds (generation : Nat) (t : Trigger) (now : Instant) (clock : Instant → Nat) :
    Nat → List SchedulerEvent
  | 0 => []
  | count + 1 => round generation now (clock now) ++
      rounds generation (t.noting (t.nextFire now)) (t.nextFire now) clock count

namespace Stands

variable {s : Scheduler} {generation : Nat} {t : Trigger}

theorem update {stage : TimerStage} (h : s.Stands generation t stage) (t' : Trigger)
    (stage' : TimerStage) (next : Option Instant) :
    (s.update ⟨generation, t', stage'⟩ next).Stands generation t' stage' where
  timer := Keyed.get?_put_self Timer.generation ⟨generation, t', stage'⟩ s.timers
  live := by
    rw [isLive_iff]
    refine ⟨⟨generation, t', next⟩, ?_, rfl⟩
    rw [scheduled?_update]
    exact if_pos rfl
  isOpen := h.isOpen
  room := h.room

theorem withStore {stage : TimerStage} (h : s.Stands generation t stage) (store : TriggerStore) :
    Stands { s with store } generation t stage :=
  ⟨h.timer, h.live, h.isOpen, h.room⟩

theorem arm (h : s.Stands generation t .planning) (now : Instant) (clock : Nat) :
    ∃ due, (s.arm generation now clock).Stands generation t (.waiting (t.nextFire now) due) := by
  refine ⟨clock + nanosBetween now (t.nextFire now), ?_⟩
  have hstep : s.arm generation now clock = s.update ⟨generation, t, .waiting (t.nextFire now)
      (clock + nanosBetween now (t.nextFire now))⟩ (some (t.nextFire now)) := by
    simp only [Scheduler.arm, h.timer, h.live, if_true]
  rw [hstep]
  exact h.update t _ _

theorem fire {fireAt : Instant} {due : Nat} (h : s.Stands generation t (.waiting fireAt due)) :
    s.noted (.fire generation) = [t.firing fireAt] ∧
      (s.fire generation).Stands generation (t.noting fireAt) (.sending (t.firing fireAt)) := by
  have hstep : s.fire generation =
      { s with store := (s.store.put (t.noting fireAt)).2 }.update
        ⟨generation, t.noting fireAt, .sending (t.firing fireAt)⟩ none := by
    simp only [Scheduler.fire, h.timer, h.live, if_true]
    rfl
  have hstands := (h.withStore (s.store.put (t.noting fireAt)).2).update (t.noting fireAt)
    (.sending (t.firing fireAt)) none
  rw [← hstep] at hstands
  refine ⟨?_, hstands⟩
  rw [noted, heldBy_eq h.timer, heldBy_eq hstands.timer]
  rfl

theorem send_receive {f : Firing} (h : s.Stands generation t (.sending f)) :
    (s.send generation).receive.2.Stands generation t .planning := by
  have hstep : s.send generation =
      { s with
        sent := s.sent ++ [f]
        timers := Keyed.put Timer.generation ⟨generation, t, .planning⟩ s.timers } := by
    simp only [send, h.timer, h.isOpen, h.room, if_true]
    rfl
  have hreceive : (s.send generation).receive.2 =
      { s with
        sent := (s.sent ++ [f]).tail
        timers := Keyed.put Timer.generation ⟨generation, t, .planning⟩ s.timers } := by
    rw [hstep, receive]
    cases s.sent <;> rfl
  rw [hreceive]
  refine ⟨Keyed.get?_put_self Timer.generation ⟨generation, t, .planning⟩ s.timers, h.live,
    h.isOpen, ?_⟩
  have hroom := h.room
  simp only [List.length_tail, List.length_append, List.length_singleton]
  omega

/-- In a round a timer notes the firing that is next for its trigger, and is back where it was with
the firing noted. -/
theorem round (h : s.Stands generation t .planning) (now : Instant) (clock : Nat) :
    s.collect noted (Scheduler.round generation now clock) = [t.firing (t.nextFire now)] ∧
      (s.after (Scheduler.round generation now clock)).Stands generation
        (t.noting (t.nextFire now)) .planning := by
  obtain ⟨due, harmed⟩ := h.arm now clock
  obtain ⟨hnoted, hfired⟩ := harmed.fire
  refine ⟨?_, hfired.send_receive⟩
  simp only [Scheduler.round, collect, step, hnoted]
  rfl

/-- In its rounds a timer notes the firings of its trigger. -/
theorem rounds (h : s.Stands generation t .planning) (now : Instant) (clock : Instant → Nat)
    (count : Nat) :
    s.collect noted (Scheduler.rounds generation t now clock count) =
      (t.firings now count).map t.firing := by
  induction count generalizing s t now with
  | zero => rfl
  | succ count ih =>
    obtain ⟨hnoted, hstands⟩ := h.round now (clock now)
    rw [Scheduler.rounds, collect_append, hnoted, ih hstands, Trigger.firings,
      Trigger.firing_noting]
    rfl

end Stands

end Scheduler

namespace Trigger

/-- What is foretold for a trigger is what comes of firing, noting the firing and looking again at
that instant, and what a timer of the trigger notes in its rounds. The firings come in increasing
order, those after the first one are occurrences of the rule, and none is left out between two. -/
theorem upcoming_agrees_with_rounds (t : Trigger) (after : Instant) (count : Nat)
    (hstart : t.start.InCalendar) (hreach : t.Reaches after count) :
    t.upcoming after count = t.firings after count ∧
    (∀ (s : Scheduler) (generation : Nat) (clock : Instant → Nat),
      s.Stands generation t .planning →
        s.collect Scheduler.noted (Scheduler.rounds generation t after clock count) =
          (t.upcoming after count).map t.firing) ∧
    (t.upcoming after count).length = count ∧
    (t.upcoming after count).Pairwise (· < ·) ∧
    (∀ x ∈ (t.upcoming after count).tail, t.rule.Occurs x) ∧
    (t.upcoming after count).IsChain fun a b ↦ ∀ x, t.rule.Occurs x → ¬ (a < x ∧ x < b) := by
  obtain ⟨hequal, hchain⟩ := isChain_upcoming hstart hreach
  have hincreasing : (t.upcoming after count).IsChain (· < ·) :=
    hchain.imp fun _ _ hnext ↦ hnext.1.2
  refine ⟨hequal, fun s generation clock hstands ↦ ?_, length_upcoming t after count,
    hincreasing.pairwise, fun x hx ↦ ?_, hchain.imp fun a b hnext x hx ↦ ?_⟩
  · rw [hequal]
    exact hstands.rounds after clock count
  · obtain ⟨i, hi, rfl⟩ := List.mem_iff_getElem.mp hx
    rw [List.length_tail] at hi
    rw [List.getElem_tail]
    exact (hchain.getElem i (by omega)).1.1
  · rintro ⟨hax, hxb⟩
    exact Int.not_le.mpr hxb (hnext.2 ⟨hx, hax⟩)

/-- Eight in the morning of the last day of a month of 2020. -/
private def lastMorning (months : Int) : Instant :=
  .onDay ((Month.january 2020).addMonths months).closing.dayNumber ⟨28800, 0⟩

/-- A trigger that was set anew for the last of January after it had fired in December is seen first
at the beginning of June: it fires at once, and then on the last of June and of July. -/
theorem upcoming_agrees_with_rounds_in_june :
    let june : Instant := .onDay ((Month.january 2020).addMonths 5).opening.dayNumber ⟨0, 0⟩
    let t : Trigger :=
      { tenant := "a", interval := .monthly, start := lastMorning 0
        lastFired := some (lastMorning (-1)) }
    let s := (Scheduler.ofStore { archive := .memory ⟨[t]⟩ }).after [.start]
    t.upcoming june 3 = [june, lastMorning 5, lastMorning 6] ∧
      s.collect Scheduler.noted (Scheduler.rounds 1 t june (fun _ ↦ 0) 3) =
        [june, lastMorning 5, lastMorning 6].map t.firing := by
  intro june t s
  have hupcoming : t.upcoming june 3 = [june, lastMorning 5, lastMorning 6] := by decide +kernel
  obtain ⟨-, hrounds, -⟩ := upcoming_agrees_with_rounds t june 3 (by decide +kernel)
    ⟨⟨lastMorning 0, by decide +kernel⟩, ⟨lastMorning 5, by decide +kernel⟩,
      ⟨lastMorning 6, by decide +kernel⟩, trivial⟩
  rw [hupcoming] at hrounds
  have hstands : s.Stands 1 t .planning :=
    ⟨by decide +kernel, by decide +kernel, by decide +kernel, by decide +kernel⟩
  exact ⟨hupcoming, hrounds s 1 _ hstands⟩

end Trigger
end UsageReports
