import UsageReports.Proofs.Data.DistinctKeys
import UsageReports.Trigger.Scheduler

/-!
# The course of a scheduler

The operations of a scheduler and the steps of its timers follow each other in any order.
Throughout, every timer has a generation of its own, and what is scheduled for a tenant has a timer
with the same trigger. A timer that is stale stays so: generations are given out in increasing
order.
-/

namespace UsageReports

/-- What may happen to a scheduler: an operation, a step of the timer of a generation, or the taking
of a firing that was sent. -/
inductive SchedulerEvent where
  | start
  | stop
  | upsert (t : Trigger) (now : Instant)
  | reconfigure (tenant : String) (interval : Interval) (start now : Instant)
  | erase (tenant : String)
  | look (tenant : String)
  | arm (generation : Nat) (now : Instant) (clock : Nat)
  | fire (generation : Nat)
  | send (generation : Nat)
  | cutOff (generation : Nat)
  | receive
deriving DecidableEq

/-- The timer of which an event is a step. -/
def SchedulerEvent.timer? : SchedulerEvent → Option Nat
  | arm generation _ _ | fire generation | send generation | cutOff generation => some generation
  | _ => none

/-- The tenant whose trigger an event sets. -/
def SchedulerEvent.set? : SchedulerEvent → Option String
  | upsert t _ => some t.tenant
  | reconfigure tenant _ _ _ => some tenant
  | _ => none

/-- The tenant of whose trigger an event leaves nothing, not even its last firing. -/
def SchedulerEvent.reset? : SchedulerEvent → Option String
  | upsert t _ => some t.tenant
  | erase tenant => some tenant
  | _ => none

namespace Scheduler

/-- What a scheduler is after an event. -/
def step (s : Scheduler) : SchedulerEvent → Scheduler
  | .start => s.start.2
  | .stop => s.stop
  | .upsert t now => (s.upsert t now).2
  | .reconfigure tenant interval start now => (s.reconfigure tenant interval start now).2
  | .erase tenant => (s.erase tenant).2
  | .look tenant => (s.get tenant).2
  | .arm generation now clock => s.arm generation now clock
  | .fire generation => s.fire generation
  | .send generation => s.send generation
  | .cutOff generation => s.cutOff generation
  | .receive => s.receive.2

/-- What a scheduler is after events, one after the other. -/
def after (s : Scheduler) (events : List SchedulerEvent) : Scheduler := events.foldl step s

@[simp] theorem after_nil (s : Scheduler) : s.after [] = s := rfl

@[simp] theorem after_cons (s : Scheduler) (e : SchedulerEvent) (rest : List SchedulerEvent) :
    s.after (e :: rest) = (s.step e).after rest := rfl

theorem after_append (s : Scheduler) (before more : List SchedulerEvent) :
    s.after (before ++ more) = (s.after before).after more := List.foldl_append

/-- What single events bring about, put together along events. -/
def collect {α : Type} (f : Scheduler → SchedulerEvent → List α) (s : Scheduler) :
    List SchedulerEvent → List α
  | [] => []
  | e :: rest => f s e ++ (s.step e).collect f rest

theorem collect_append {α : Type} (f : Scheduler → SchedulerEvent → List α) (s : Scheduler)
    (before more : List SchedulerEvent) :
    s.collect f (before ++ more) = s.collect f before ++ (s.after before).collect f more := by
  induction before generalizing s with
  | nil => rfl
  | cons e rest ih =>
    rw [List.cons_append, collect, collect, ih, after_cons, List.append_assoc]

/-! ## Operations and steps -/

variable {s : Scheduler}

theorem place_cases (s : Scheduler) (t : Trigger) (now : Instant) :
    ((s.store.put t).1 = .ok () → s.isRunning = false) ∧
        (s.place t now).2 = { s with store := (s.store.put t).2 } ∨
      s.isRunning = true ∧
        (s.place t now).2 = { s with store := (s.store.put t).2 }.schedule t := by
  unfold place
  generalize s.store.put t = put
  obtain ⟨_ | _, store⟩ := put
  · exact Or.inl ⟨fun hok ↦ by contradiction, rfl⟩
  · by_cases hrun : s.isRunning = true
    · simp only [hrun, if_true]
      exact Or.inr ⟨trivial, trivial⟩
    · simp only [hrun]
      exact Or.inl ⟨fun _ ↦ trivial, rfl⟩

theorem upsert_cases (s : Scheduler) (t : Trigger) (now : Instant) :
    (s.upsert t now).2 = s ∨ (s.upsert t now).2 = (s.place t now).2 := by
  unfold upsert
  split
  · exact Or.inl rfl
  · exact Or.inr rfl

/-- The trigger that is set for a tenant whose stored trigger is known. -/
def reset (s : Scheduler) (stored : Option Trigger) (tenant : String) (interval : Interval)
    (start : Instant) : Trigger :=
  { tenant, interval, start
    lastFired := latestFired ((s.scheduled? tenant).bind (·.trigger.lastFired))
      (stored.bind Trigger.lastFired) }

theorem reconfigure_cases (s : Scheduler) (tenant : String) (interval : Interval)
    (start now : Instant) :
    (s.reconfigure tenant interval start now).2 = s ∨
      (s.reconfigure tenant interval start now).2 =
        { s with store := (s.store.get tenant).2 } ∨
      ∃ stored, (s.store.get tenant).1 = .ok stored ∧
        (s.reconfigure tenant interval start now).2 =
          ({ s with store := (s.store.get tenant).2 }.place
            (s.reset stored tenant interval start) now).2 := by
  unfold reconfigure
  simp only
  split
  · exact Or.inl rfl
  · generalize s.store.get tenant = got
    obtain ⟨_ | stored, store⟩ := got
    · exact Or.inr (Or.inl rfl)
    · exact Or.inr (Or.inr ⟨stored, rfl, rfl⟩)

theorem start_cases (s : Scheduler) :
    s.start.2 = s ∨ s.start.2 = { s with store := s.store.list.2 } ∨
      ∃ triggers, s.store.list.1 = .ok triggers ∧ s.isRunning = false ∧
        s.start.2 =
          triggers.foldl schedule { s with store := s.store.list.2, isRunning := true } := by
  unfold start
  split
  · exact Or.inl rfl
  · next hrun =>
    generalize s.store.list = listed
    obtain ⟨_ | triggers, store⟩ := listed
    · exact Or.inr (Or.inl rfl)
    · exact Or.inr (Or.inr ⟨triggers, rfl, by simpa using hrun, rfl⟩)

theorem erase_cases (s : Scheduler) (tenant : String) :
    (∃ e, (s.store.erase tenant).1 = .error e) ∧
        (s.erase tenant).2 = { s with store := (s.store.erase tenant).2 } ∨
      (s.erase tenant).2 =
        { s with store := (s.store.erase tenant).2
                 scheduled := Keyed.erase Scheduled.tenant tenant s.scheduled } := by
  unfold erase
  generalize s.store.erase tenant = erased
  obtain ⟨e | existed, store⟩ := erased
  · exact Or.inl ⟨⟨e, rfl⟩, rfl⟩
  · right
    simp only
    split <;> rfl

theorem arm_cases (s : Scheduler) (generation : Nat) (now : Instant) (clock : Nat) :
    s.arm generation now clock = s ∨
      ∃ t, s.timer? generation = some t ∧ t.stage = .planning ∧
        (s.isLive t = false ∧ s.arm generation now clock = s.endTimer generation ∨
          s.isLive t = true ∧ ∃ due, s.arm generation now clock =
            s.update { t with stage := .waiting (t.trigger.nextFire now) due }
              (some (t.trigger.nextFire now))) := by
  unfold arm
  split
  · next t ht =>
    split
    · next hstage =>
      right
      refine ⟨t, ht, hstage, ?_⟩
      cases hl : s.isLive t
      · exact Or.inl ⟨rfl, rfl⟩
      · exact Or.inr ⟨rfl, _, rfl⟩
    · exact Or.inl rfl
  · exact Or.inl rfl

/-- A timer that has fired, and has its firing to send. -/
def fired (t : Timer) (fireAt : Instant) : Timer :=
  ⟨t.generation, { t.trigger with lastFired := some fireAt },
    .sending ⟨t.trigger.tenant, t.trigger.interval, fireAt⟩⟩

theorem generation_of_timer? {generation : Nat} {t : Timer} (ht : s.timer? generation = some t) :
    t.generation = generation :=
  Keyed.key_of_get? ht

theorem fire_cases (s : Scheduler) (generation : Nat) :
    s.fire generation = s ∨
      ∃ t fireAt due, s.timer? generation = some t ∧ t.stage = .waiting fireAt due ∧
        (s.isLive t = false ∧ s.fire generation = s.endTimer generation ∨
          s.isLive t = true ∧ s.fire generation =
            { s with store := (s.store.put (fired t fireAt).trigger).2 }.update
              (fired t fireAt) none) := by
  unfold fire
  split
  · next t ht =>
    split
    · next fireAt due hstage =>
      right
      refine ⟨t, fireAt, due, ht, hstage, ?_⟩
      cases hl : s.isLive t
      · exact Or.inl ⟨rfl, rfl⟩
      · rw [← generation_of_timer? ht]
        exact Or.inr ⟨rfl, rfl⟩
    · exact Or.inl rfl
  · exact Or.inl rfl

theorem send_cases (hopen : s.isClosed = false) (generation : Nat) :
    s.send generation = s ∨
      ∃ t f, s.timer? generation = some t ∧ t.stage = .sending f ∧ s.sent.length < maxSent ∧
        s.send generation =
          { s with
              sent := s.sent ++ [f]
              timers := Keyed.put Timer.generation { t with stage := .planning } s.timers } := by
  unfold send
  split
  · next t ht =>
    split
    · next f hstage =>
      rw [hopen, if_neg Bool.false_ne_true]
      split
      · next hroom => exact Or.inr ⟨t, f, ht, hstage, hroom, rfl⟩
      · exact Or.inl rfl
    · exact Or.inl rfl
  · exact Or.inl rfl

theorem cutOff_cases (s : Scheduler) (generation : Nat) :
    s.cutOff generation = s ∨
      ∃ t, s.timer? generation = some t ∧ s.isLive t = false ∧
        s.cutOff generation = s.endTimer generation := by
  unfold cutOff
  split
  · next t ht =>
    cases hl : s.isLive t
    · exact Or.inr ⟨t, ht, hl, rfl⟩
    · exact Or.inl rfl
  · exact Or.inl rfl

/-! ## What is scheduled -/

/-- A part of a scheduler that stays when a trigger is scheduled stays when several are. -/
theorem foldl_schedule_eq {α : Type} (part : Scheduler → α)
    (h : ∀ s t, part (schedule s t) = part s) (s : Scheduler) (triggers : List Trigger) :
    part (triggers.foldl schedule s) = part s :=
  List.foldlRecOn (motive := fun s' ↦ part s' = part s) triggers schedule rfl
    fun s' hs t _ ↦ (h s' t).trans hs

theorem scheduled?_schedule (s : Scheduler) (t : Trigger) (tenant : String) :
    (s.schedule t).scheduled? tenant =
      if t.tenant = tenant then some ⟨s.generation + 1, t, none⟩ else s.scheduled? tenant := by
  split
  · next h =>
    subst h
    exact Keyed.get?_put_self Scheduled.tenant ⟨s.generation + 1, t, none⟩ s.scheduled
  · next h =>
    exact Keyed.get?_put_of_ne Scheduled.tenant (a := ⟨s.generation + 1, t, none⟩) h s.scheduled

theorem scheduled?_update (s : Scheduler) (t : Timer) (next : Option Instant) (tenant : String) :
    (s.update t next).scheduled? tenant =
      if t.trigger.tenant = tenant then some ⟨t.generation, t.trigger, next⟩
      else s.scheduled? tenant := by
  split
  · next h =>
    subst h
    exact Keyed.get?_put_self Scheduled.tenant ⟨t.generation, t.trigger, next⟩ s.scheduled
  · next h =>
    exact Keyed.get?_put_of_ne Scheduled.tenant (a := ⟨t.generation, t.trigger, next⟩) h s.scheduled

theorem isLive_iff (t : Timer) :
    s.isLive t = true ↔
      ∃ c, s.scheduled? t.trigger.tenant = some c ∧ c.generation = t.generation := by
  simp only [isLive, Option.any_eq_true, decide_eq_true_eq]

/-- Timers have generations of their own, and what is scheduled for a tenant has a timer with the
same trigger. -/
structure Orderly (s : Scheduler) : Prop where
  isOpen : s.isClosed = false
  timers : (s.timers.map Timer.generation).Nodup
  timer_le : ∀ t ∈ s.timers, t.generation ≤ s.generation
  scheduled : (s.scheduled.map Scheduled.tenant).Nodup
  own : ∀ tenant c, s.scheduled? tenant = some c →
    ∃ t, s.timer? c.generation = some t ∧ t.trigger = c.trigger

namespace Orderly

theorem ofStore (store : TriggerStore) : (ofStore store).Orderly where
  isOpen := rfl
  timers := List.nodup_nil
  timer_le := fun _ ht ↦ absurd ht List.not_mem_nil
  scheduled := List.nodup_nil
  own := fun _ _ hc ↦ by contradiction

theorem timer?_eq_some_iff (h : s.Orderly) (generation : Nat) (t : Timer) :
    s.timer? generation = some t ↔ t ∈ s.timers ∧ t.generation = generation :=
  Keyed.get?_eq_some_iff Timer.generation h.timers generation t

theorem timer?_self (h : s.Orderly) {t : Timer} (ht : t ∈ s.timers) :
    s.timer? t.generation = some t :=
  (h.timer?_eq_some_iff t.generation t).mpr ⟨ht, rfl⟩

/-- What is scheduled with the generation of a timer is scheduled for its tenant, so that the timer
is live. -/
theorem scheduled_of_timer (h : s.Orderly) {t : Timer} {tenant : String} {c : Scheduled}
    (ht : s.timer? c.generation = some t) (hc : s.scheduled? tenant = some c) :
    t.trigger = c.trigger ∧ tenant = t.trigger.tenant ∧ s.isLive t = true := by
  obtain ⟨t', ht', htrigger⟩ := h.own tenant c hc
  obtain rfl : t = t' := Option.some.inj (ht.symm.trans ht')
  obtain rfl : tenant = t.trigger.tenant := by
    rw [htrigger]
    exact (Keyed.key_of_get? hc).symm
  exact ⟨htrigger, rfl, isLive_iff t |>.mpr ⟨c, hc, (generation_of_timer? ht).symm⟩⟩

/-- A live timer has the trigger that is scheduled. -/
theorem scheduled_of_live (h : s.Orderly) {t : Timer} {generation : Nat}
    (ht : s.timer? generation = some t) (hl : s.isLive t = true) :
    ∃ next, s.scheduled? t.trigger.tenant = some ⟨generation, t.trigger, next⟩ := by
  obtain ⟨⟨g, trigger, next⟩, hc, hg⟩ := isLive_iff t |>.mp hl
  obtain rfl : g = generation := hg.trans (generation_of_timer? ht)
  obtain rfl : t.trigger = trigger := (h.scheduled_of_timer ht hc).1
  exact ⟨next, hc⟩

/-- Of the timers of a tenant at most one is live. -/
theorem live_unique (h : s.Orderly) {t t' : Timer} (ht : t ∈ s.timers) (ht' : t' ∈ s.timers)
    (hl : s.isLive t = true) (hl' : s.isLive t' = true)
    (he : t.trigger.tenant = t'.trigger.tenant) : t = t' := by
  obtain ⟨next, hc⟩ := h.scheduled_of_live (h.timer?_self ht) hl
  obtain ⟨next', hc'⟩ := h.scheduled_of_live (h.timer?_self ht') hl'
  rw [he, hc'] at hc
  obtain ⟨hg, -, -⟩ := Scheduled.mk.inj (Option.some.inj hc)
  exact Option.some.inj ((h.timer?_self ht).symm.trans (hg ▸ h.timer?_self ht'))

theorem withStore (h : s.Orderly) (store : TriggerStore) : Orderly { s with store } :=
  ⟨h.isOpen, h.timers, h.timer_le, h.scheduled, h.own⟩

/-- Less may be scheduled. -/
theorem withScheduled (h : s.Orderly) {scheduled : List Scheduled} (isRunning : Bool)
    (hd : (scheduled.map Scheduled.tenant).Nodup)
    (hsub : ∀ tenant c, Keyed.get? Scheduled.tenant tenant scheduled = some c →
      s.scheduled? tenant = some c) : Orderly { s with isRunning, scheduled } :=
  ⟨h.isOpen, h.timers, h.timer_le, hd, fun tenant c hc ↦ h.own tenant c (hsub tenant c hc)⟩

theorem schedule (h : s.Orderly) (t : Trigger) : (s.schedule t).Orderly where
  isOpen := h.isOpen
  timers := by
    have hnew : s.generation + 1 ∉ s.timers.map Timer.generation := by
      intro hm
      obtain ⟨t', ht', he⟩ := List.mem_map.mp hm
      have hle := h.timer_le t' ht'
      omega
    have hkeys : (s.schedule t).timers.map Timer.generation =
        s.timers.map Timer.generation ++ [s.generation + 1] := List.map_append
    rw [hkeys]
    exact List.nodup_append.mpr ⟨h.timers, List.pairwise_singleton _ _, by
      rintro a ha b hb rfl
      exact hnew (List.mem_singleton.mp hb ▸ ha)⟩
  timer_le := by
    intro t' ht'
    rcases List.mem_append.mp ht' with ht' | ht'
    · exact Nat.le_succ_of_le (h.timer_le t' ht')
    · rw [List.mem_singleton.mp ht']
      exact Nat.le_refl _
  scheduled := Keyed.nodup_put Scheduled.tenant _ h.scheduled
  own := by
    intro tenant c hc
    have hfound : ∀ g, (s.schedule t).timer? g =
        (s.timer? g).or (Keyed.get? Timer.generation g [⟨s.generation + 1, t, .planning⟩]) :=
      fun g ↦ List.find?_append
    have hnone : s.timer? (s.generation + 1) = none := by
      refine Option.eq_none_iff_forall_ne_some.mpr fun t' ht' ↦ ?_
      obtain ⟨hm, hg⟩ := (h.timer?_eq_some_iff _ t').mp ht'
      have hle := h.timer_le t' hm
      omega
    rw [scheduled?_schedule] at hc
    split at hc
    · obtain rfl := Option.some.inj hc
      refine ⟨⟨s.generation + 1, t, .planning⟩, ?_, rfl⟩
      rw [hfound, hnone]
      simp [Keyed.get?]
    · obtain ⟨t', ht', he⟩ := h.own tenant c hc
      exact ⟨t', by rw [hfound, ht', Option.some_or], he⟩

theorem foldl_schedule (h : s.Orderly) (triggers : List Trigger) :
    (triggers.foldl Scheduler.schedule s).Orderly :=
  List.foldlRecOn triggers Scheduler.schedule h fun _ hs t _ ↦ hs.schedule t

/-- A timer may be replaced by one of its generation with the trigger that is scheduled. -/
theorem withTimer (h : s.Orderly) (t' : Timer) {t : Timer}
    (ht : s.timer? t'.generation = some t) {scheduled : List Scheduled} (sent : List Firing)
    (hd : (scheduled.map Scheduled.tenant).Nodup)
    (hc : ∀ tenant c, Keyed.get? Scheduled.tenant tenant scheduled = some c →
      c.generation = t'.generation ∧ t'.trigger = c.trigger ∨
        c.generation ≠ t'.generation ∧ s.scheduled? tenant = some c) :
    Orderly { s with sent, scheduled, timers := Keyed.put Timer.generation t' s.timers } where
  isOpen := h.isOpen
  timers := Keyed.nodup_put Timer.generation t' h.timers
  timer_le := by
    intro t2 ht2
    rcases Keyed.mem_of_mem_put ht2 with rfl | hm
    · obtain ⟨hm, hg⟩ := (h.timer?_eq_some_iff _ t).mp ht
      exact hg ▸ h.timer_le t hm
    · exact h.timer_le t2 hm
  scheduled := hd
  own := by
    intro tenant c hfound
    rcases hc tenant c hfound with ⟨hg, htrigger⟩ | ⟨hg, hold⟩
    · refine ⟨t', ?_, htrigger⟩
      rw [hg]
      exact Keyed.get?_put_self Timer.generation t' s.timers
    · obtain ⟨t2, ht2, he⟩ := h.own tenant c hold
      refine ⟨t2, ?_, he⟩
      exact (Keyed.get?_put_of_ne Timer.generation (Ne.symm hg) s.timers).trans ht2

/-- A stale timer may end. -/
theorem endTimer (h : s.Orderly) {t : Timer} {generation : Nat}
    (ht : s.timer? generation = some t) (hl : s.isLive t = false) :
    (s.endTimer generation).Orderly where
  isOpen := h.isOpen
  timers := Keyed.nodup_erase Timer.generation generation h.timers
  timer_le := fun t' ht' ↦ h.timer_le t' (List.mem_filter.mp ht').1
  scheduled := h.scheduled
  own := by
    intro tenant c hc
    obtain ⟨t', ht', he⟩ := h.own tenant c hc
    have hne : generation ≠ c.generation := by
      rintro rfl
      rw [(h.scheduled_of_timer ht hc).2.2] at hl
      contradiction
    exact ⟨t', (Keyed.get?_erase_of_ne Timer.generation hne s.timers).trans ht', he⟩

/-- A timer may be replaced, and its trigger with it. -/
theorem update (h : s.Orderly) (t' : Timer) {t : Timer} {generation : Nat}
    (ht : s.timer? generation = some t) (hg : t'.generation = t.generation)
    (htenant : t'.trigger.tenant = t.trigger.tenant) (next : Option Instant) :
    (s.update t' next).Orderly := by
  have ht' : s.timer? t'.generation = some t := by rw [hg, generation_of_timer? ht, ht]
  refine h.withTimer t' ht' s.sent (Keyed.nodup_put Scheduled.tenant _ h.scheduled) ?_
  intro tenant c hc
  change (s.update t' next).scheduled? tenant = some c at hc
  rw [scheduled?_update] at hc
  split at hc
  · obtain rfl := Option.some.inj hc
    exact Or.inl ⟨rfl, rfl⟩
  · next hne =>
    refine Or.inr ⟨?_, hc⟩
    intro he
    exact hne (htenant.trans (h.scheduled_of_timer (he ▸ ht') hc).2.1.symm)

/-- A timer may go on to its next stage, with its trigger. -/
theorem advance (h : s.Orderly) {t : Timer} {generation : Nat}
    (ht : s.timer? generation = some t) (stage : TimerStage) (sent : List Firing) :
    Orderly { s with sent, timers := Keyed.put Timer.generation { t with stage } s.timers } := by
  have hg := generation_of_timer? ht
  refine h.withTimer { t with stage } (hg ▸ ht) sent h.scheduled ?_
  intro tenant c hc
  by_cases he : c.generation = t.generation
  · have htc : s.timer? c.generation = some t := by rw [he, hg, ht]
    exact Or.inl ⟨he, (h.scheduled_of_timer htc hc).1⟩
  · exact Or.inr ⟨he, hc⟩

theorem place (h : s.Orderly) (t : Trigger) (now : Instant) : (s.place t now).2.Orderly := by
  rcases place_cases s t now with ⟨-, he⟩ | ⟨-, he⟩
  · rw [he]
    exact h.withStore _
  · rw [he]
    exact (h.withStore _).schedule t

/-- Every event leaves a scheduler orderly. -/
theorem step (h : s.Orderly) (e : SchedulerEvent) : (s.step e).Orderly := by
  cases e with
  | start =>
    rcases start_cases s with he | he | ⟨triggers, -, -, he⟩ <;> rw [Scheduler.step, he]
    · exact h
    · exact h.withStore _
    · have hrun := (h.withStore s.store.list.2).withScheduled true h.scheduled fun _ _ hc ↦ hc
      exact hrun.foldl_schedule triggers
  | stop =>
    rw [Scheduler.step, stop]
    split
    · exact h.withScheduled false List.nodup_nil fun _ _ hc ↦ by contradiction
    · exact h
  | upsert t now =>
    rcases upsert_cases s t now with he | he <;> rw [Scheduler.step, he]
    · exact h
    · exact h.place t now
  | reconfigure tenant interval start now =>
    rcases reconfigure_cases s tenant interval start now with he | he | ⟨_, -, he⟩ <;>
      rw [Scheduler.step, he]
    · exact h
    · exact h.withStore _
    · exact (h.withStore _).place _ now
  | erase tenant =>
    rcases erase_cases s tenant with ⟨-, he⟩ | he <;> rw [Scheduler.step, he]
    · exact h.withStore _
    · refine (h.withStore _).withScheduled s.isRunning
        (Keyed.nodup_erase Scheduled.tenant tenant h.scheduled) ?_
      intro tenant' c hc
      have hne : tenant ≠ tenant' := by
        rintro rfl
        rw [Keyed.get?_erase_self] at hc
        contradiction
      rwa [Keyed.get?_erase_of_ne Scheduled.tenant hne] at hc
  | look tenant => exact h.withStore _
  | arm generation now clock =>
    rcases arm_cases s generation now clock with he | ⟨t, ht, -, ⟨hl, he⟩ | ⟨-, due, he⟩⟩ <;>
      rw [Scheduler.step, he]
    · exact h
    · exact h.endTimer ht hl
    · exact h.update { t with stage := .waiting _ due } ht rfl rfl _
  | fire generation =>
    rcases fire_cases s generation with he | ⟨t, fireAt, due, ht, -, ⟨hl, he⟩ | ⟨-, he⟩⟩ <;>
      rw [Scheduler.step, he]
    · exact h
    · exact h.endTimer ht hl
    · have hput := h.withStore (s.store.put (fired t fireAt).trigger).2
      exact hput.update (fired t fireAt) ht rfl rfl none
  | send generation =>
    rcases send_cases h.isOpen generation with he | ⟨t, f, ht, -, -, he⟩ <;>
      rw [Scheduler.step, he]
    · exact h
    · exact h.advance ht .planning _
  | cutOff generation =>
    rcases cutOff_cases s generation with he | ⟨t, ht, hl, he⟩ <;> rw [Scheduler.step, he]
    · exact h
    · exact h.endTimer ht hl
  | receive =>
    rw [Scheduler.step, receive]
    split
    · exact h
    · exact ⟨h.isOpen, h.timers, h.timer_le, h.scheduled, h.own⟩

theorem after (h : s.Orderly) (events : List SchedulerEvent) : (s.after events).Orderly := by
  induction events generalizing s with
  | nil => exact h
  | cons e rest ih => exact ih (h.step e)

end Orderly

/-! ## Stale timers -/

/-- Whether a generation was given out and is not scheduled any more. -/
def Retired (s : Scheduler) (generation : Nat) : Prop :=
  generation ≤ s.generation ∧ ∀ tenant c, s.scheduled? tenant = some c → c.generation ≠ generation

/-- The generation of a stale timer is retired. -/
theorem Orderly.retired_of_stale (h : s.Orderly) {t : Timer} (ht : t ∈ s.timers)
    (hl : s.isLive t = false) : s.Retired t.generation := by
  refine ⟨h.timer_le t ht, ?_⟩
  intro tenant c hc hg
  rw [(h.scheduled_of_timer (hg ▸ h.timer?_self ht) hc).2.2] at hl
  contradiction

namespace Retired

variable {generation : Nat}

/-- A timer of a retired generation is stale. -/
theorem stale (h : s.Retired generation) {t : Timer} (ht : s.timer? generation = some t) :
    s.isLive t = false := by
  rw [← Bool.not_eq_true, isLive_iff]
  rintro ⟨c, hc, hg⟩
  exact h.2 _ c hc (hg.trans (generation_of_timer? ht))

/-- A step of a timer of a retired generation leaves the store as it is. -/
theorem store_step (h : s.Retired generation) (hs : s.Orderly) {e : SchedulerEvent}
    (he : e.timer? = some generation) : (s.step e).store = s.store := by
  cases e with
  | arm g now clock =>
    obtain rfl := Option.some.inj he
    rcases arm_cases s g now clock with he | ⟨t, -, -, ⟨-, he⟩ | ⟨-, due, he⟩⟩ <;>
      rw [Scheduler.step, he] <;> rfl
  | fire g =>
    obtain rfl := Option.some.inj he
    rcases fire_cases s g with he | ⟨t, fireAt, due, ht, -, ⟨-, he⟩ | ⟨hl, -⟩⟩
    · rw [Scheduler.step, he]
    · rw [Scheduler.step, he]
      rfl
    · rw [h.stale ht] at hl
      contradiction
  | send g =>
    obtain rfl := Option.some.inj he
    rcases send_cases hs.isOpen g with he | ⟨t, f, -, -, -, he⟩ <;> rw [Scheduler.step, he]
  | cutOff g =>
    obtain rfl := Option.some.inj he
    rcases cutOff_cases s g with he | ⟨t, -, -, he⟩ <;> rw [Scheduler.step, he]
    rfl
  | _ => contradiction

/-- Only a new generation is scheduled, or one that was. -/
theorem of_scheduled (h : s.Retired generation) {s' : Scheduler}
    (hle : s.generation ≤ s'.generation)
    (hc : ∀ tenant c, s'.scheduled? tenant = some c →
      (∃ tenant' c', s.scheduled? tenant' = some c' ∧ c'.generation = c.generation) ∨
        s.generation < c.generation) : s'.Retired generation := by
  refine ⟨Nat.le_trans h.1 hle, ?_⟩
  rintro tenant c hfound rfl
  rcases hc tenant c hfound with ⟨tenant', c', hc', hg⟩ | hlt
  · exact h.2 tenant' c' hc' hg
  · exact absurd h.1 (Nat.not_le.mpr hlt)

theorem withStore (h : s.Retired generation) (store : TriggerStore) :
    Retired { s with store } generation :=
  h

theorem schedule (h : s.Retired generation) (t : Trigger) : (s.schedule t).Retired generation := by
  refine h.of_scheduled (Nat.le_succ _) ?_
  intro tenant c hc
  rw [scheduled?_schedule] at hc
  split at hc
  · obtain rfl := Option.some.inj hc
    exact Or.inr (Nat.lt_succ_self _)
  · exact Or.inl ⟨tenant, c, hc, rfl⟩

theorem foldl_schedule (h : s.Retired generation) (triggers : List Trigger) :
    (triggers.foldl Scheduler.schedule s).Retired generation :=
  List.foldlRecOn (motive := fun s' ↦ s'.Retired generation) triggers Scheduler.schedule h
    fun _ hs t _ ↦ hs.schedule t

theorem place (h : s.Retired generation) (t : Trigger) (now : Instant) :
    (s.place t now).2.Retired generation := by
  rcases place_cases s t now with ⟨-, he⟩ | ⟨-, he⟩
  · rw [he]
    exact h
  · rw [he]
    exact (h.withStore _).schedule t

theorem update (h : s.Retired generation) (t' : Timer) {t : Timer} (hl : s.isLive t = true)
    (hg : t'.generation = t.generation) (next : Option Instant) :
    (s.update t' next).Retired generation := by
  refine h.of_scheduled (Nat.le_refl _) ?_
  intro tenant c hc
  rw [scheduled?_update] at hc
  split at hc
  · obtain rfl := Option.some.inj hc
    obtain ⟨c', hc', hg'⟩ := isLive_iff t |>.mp hl
    exact Or.inl ⟨_, c', hc', hg'.trans hg.symm⟩
  · exact Or.inl ⟨tenant, c, hc, rfl⟩

/-- A retired generation stays retired. -/
theorem step (h : s.Retired generation) (hs : s.Orderly) (e : SchedulerEvent) :
    (s.step e).Retired generation := by
  cases e with
  | start =>
    rcases start_cases s with he | he | ⟨triggers, -, -, he⟩ <;> rw [Scheduler.step, he]
    · exact h
    · exact h
    · exact foldl_schedule (s := { s with store := _, isRunning := true }) h triggers
  | stop =>
    rw [Scheduler.step, stop]
    split
    · exact ⟨h.1, fun _ _ hc ↦ by contradiction⟩
    · exact h
  | upsert t now =>
    rcases upsert_cases s t now with he | he <;> rw [Scheduler.step, he]
    · exact h
    · exact h.place t now
  | reconfigure tenant interval start now =>
    rcases reconfigure_cases s tenant interval start now with he | he | ⟨_, -, he⟩ <;>
      rw [Scheduler.step, he]
    · exact h
    · exact h
    · exact (h.withStore _).place _ now
  | erase tenant =>
    rcases erase_cases s tenant with ⟨-, he⟩ | he <;> rw [Scheduler.step, he]
    · exact h
    · refine h.of_scheduled (Nat.le_refl _) ?_
      intro tenant' c hc
      have hne : tenant ≠ tenant' := by
        rintro rfl
        rw [scheduled?, Keyed.get?_erase_self] at hc
        contradiction
      rw [scheduled?, Keyed.get?_erase_of_ne Scheduled.tenant hne] at hc
      exact Or.inl ⟨tenant', c, hc, rfl⟩
  | look tenant => exact h
  | arm g now clock =>
    rcases arm_cases s g now clock with he | ⟨t, -, -, ⟨-, he⟩ | ⟨hl, due, he⟩⟩ <;>
      rw [Scheduler.step, he]
    · exact h
    · exact h
    · exact h.update _ hl rfl _
  | fire g =>
    rcases fire_cases s g with he | ⟨t, fireAt, due, -, -, ⟨-, he⟩ | ⟨hl, he⟩⟩ <;>
      rw [Scheduler.step, he]
    · exact h
    · exact h
    · exact (h.withStore _).update (fired t fireAt) hl rfl none
  | send g =>
    rcases send_cases hs.isOpen g with he | ⟨t, f, -, -, -, he⟩ <;> rw [Scheduler.step, he]
    · exact h
    · exact h
  | cutOff g =>
    rcases cutOff_cases s g with he | ⟨t, -, -, he⟩ <;> rw [Scheduler.step, he]
    · exact h
    · exact h
  | receive =>
    rw [Scheduler.step, receive]
    split
    · exact h
    · exact h

theorem after (h : s.Retired generation) (hs : s.Orderly) (events : List SchedulerEvent) :
    (s.after events).Retired generation := by
  induction events generalizing s with
  | nil => exact h
  | cons e rest ih => exact ih (h.step hs e) (hs.step e)

end Retired

end Scheduler
end UsageReports
