import UsageReports.Proofs.Store.TriggerContents
import UsageReports.Proofs.Trigger.Delivery
import UsageReports.Proofs.Trigger.NextFire

/-!
# One timer for each tenant

While a scheduler runs on a store that does not fail, what it has scheduled is what is stored, and
every stored trigger has one live timer with the same trigger. A timer that is stale never writes to
the store again. Between two removals of a tenant's trigger the stored last firing is the last one
that was noted, and each firing that is noted is later than the one before it.
-/

namespace UsageReports

namespace Scheduler

/-- The stored trigger of a tenant. -/
def stored? (s : Scheduler) (tenant : String) : Option Trigger :=
  match s.store.archive.get tenant with
  | .ok t => t
  | .error _ => none

/-- The last firing of a tenant's stored trigger. -/
def lastStored (s : Scheduler) (tenant : String) : Option Instant :=
  (s.stored? tenant).bind Trigger.lastFired

/-- The times of the firings of a tenant that an event notes. -/
def notedTimes (tenant : String) (s : Scheduler) (e : SchedulerEvent) : List Instant :=
  ((s.noted e).filter (·.tenant = tenant)).map Firing.time

/-- The trigger that an event puts in the store. -/
def written (s : Scheduler) : SchedulerEvent → List Trigger
  | .upsert t _ => [t]
  | .reconfigure tenant interval start _ => [s.reset (s.stored? tenant) tenant interval start]
  | .fire generation =>
    match s.timer? generation with
    | some t =>
      match t.stage with
      | .waiting fireAt _ => [(fired t fireAt).trigger]
      | _ => []
    | none => []
  | _ => []

/-- The trigger for which an event works out when to fire. -/
def planned (s : Scheduler) : SchedulerEvent → List Trigger
  | .arm generation _ _ => (s.timer? generation).toList.map Timer.trigger
  | _ => []

/-- Whether the store can keep each trigger that is put in it along events. -/
def CanServe (s : Scheduler) : List SchedulerEvent → Prop
  | [] => True
  | e :: rest => (∀ t ∈ s.written e, s.store.archive.CanKeep t) ∧ (s.step e).CanServe rest

instance (t : Trigger) : Decidable (TriggerRow.Faithful t) := inferInstanceAs (Decidable (_ = _))

instance (a : TriggerArchive) (t : Trigger) : Decidable (a.CanKeep t) :=
  match a with
  | .memory _ => .isTrue trivial
  | .table _ => inferInstanceAs (Decidable (TriggerRow.Faithful t))

instance decidableCanServe : (s : Scheduler) → (events : List SchedulerEvent) →
    Decidable (s.CanServe events)
  | _, [] => .isTrue trivial
  | s, e :: rest =>
    have := decidableCanServe (s.step e) rest
    inferInstanceAs (Decidable (_ ∧ _))

/-- What is scheduled while a scheduler runs is what is stored; otherwise nothing is. -/
structure Mirrors (s : Scheduler) (ts : Triggers) : Prop where
  store : s.store.Holds ts
  distinct : ts.Distinct
  running : s.isRunning = true → ∀ tenant,
    (s.scheduled? tenant).map Scheduled.trigger = ts.get? tenant
  stopped : s.isRunning = false → s.scheduled = []

/-- What an event makes of the stored triggers. -/
inductive Change (s : Scheduler) (ts : Triggers) : SchedulerEvent → Triggers → Prop
  | same {e : SchedulerEvent} (hnoted : s.noted e = []) : Change s ts e ts
  | erase (tenant : String) : Change s ts (.erase tenant) (ts.erase tenant)
  | upsert (t : Trigger) (now : Instant) : Change s ts (.upsert t now) (ts.put t)
  | reconfigure (tenant : String) (interval : Interval) (start now : Instant) :
    Change s ts (.reconfigure tenant interval start now)
      (ts.put { tenant, interval, start, lastFired := (ts.get? tenant).bind Trigger.lastFired })
  | fire {generation : Nat} {t : Timer} {fireAt : Instant} {due : Nat}
    (ht : t ∈ s.timers) (hstage : t.stage = .waiting fireAt due)
    (hstored : ts.get? t.trigger.tenant = some t.trigger)
    (hnoted : s.noted (.fire generation) = [⟨t.trigger.tenant, t.trigger.interval, fireAt⟩]) :
    Change s ts (.fire generation) (ts.put (fired t fireAt).trigger)

variable {s : Scheduler} {ts : Triggers}

namespace Mirrors

theorem ofStore {store : TriggerStore} (h : store.Holds ts) (hd : ts.Distinct) :
    (ofStore store).Mirrors ts :=
  ⟨h, hd, fun hrun ↦ by contradiction, fun _ ↦ rfl⟩

theorem stored?_eq (h : s.Mirrors ts) (tenant : String) : s.stored? tenant = ts.get? tenant := by
  rw [stored?, h.store.archive.get]

theorem lastStored_eq (h : s.Mirrors ts) (tenant : String) :
    s.lastStored tenant = (ts.get? tenant).bind Trigger.lastFired := by
  rw [lastStored, h.stored?_eq]

theorem isRunning_of_scheduled (h : s.Mirrors ts) {tenant : String} {c : Scheduled}
    (hc : s.scheduled? tenant = some c) : s.isRunning = true := by
  by_contra hstop
  rw [scheduled?, h.stopped (by simpa using hstop)] at hc
  contradiction

/-- A live timer has the trigger that is stored. -/
theorem stored_of_live (h : s.Mirrors ts) (ho : s.Orderly) {t : Timer} {generation : Nat}
    (ht : s.timer? generation = some t) (hl : s.isLive t = true) :
    s.isRunning = true ∧ ts.get? t.trigger.tenant = some t.trigger := by
  obtain ⟨next, hc⟩ := ho.scheduled_of_live ht hl
  have hrun := h.isRunning_of_scheduled hc
  refine ⟨hrun, ?_⟩
  rw [← h.running hrun, hc]
  rfl

/-- What is known of the last firing of a trigger that is set anew is what is stored of it. -/
theorem reset_eq (h : s.Mirrors ts) (tenant : String) (interval : Interval) (start : Instant) :
    s.reset (ts.get? tenant) tenant interval start =
      { tenant, interval, start, lastFired := (ts.get? tenant).bind Trigger.lastFired } := by
  have hlast : latestFired ((s.scheduled? tenant).bind (·.trigger.lastFired))
      ((ts.get? tenant).bind Trigger.lastFired) = (ts.get? tenant).bind Trigger.lastFired := by
    by_cases hrun : s.isRunning = true
    · have hsame : (s.scheduled? tenant).bind (·.trigger.lastFired) =
          (ts.get? tenant).bind Trigger.lastFired := by
        rw [← h.running hrun, Option.bind_map]
        rfl
      rw [hsame]
      cases (ts.get? tenant).bind Trigger.lastFired with
      | none => rfl
      | some last => simp [latestFired, Instant.latest]
    · rw [scheduled?, h.stopped (by simpa using hrun)]
      rfl
  rw [reset, hlast]

theorem withStore (h : s.Mirrors ts) {store : TriggerStore} (hstore : store.Holds ts) :
    Mirrors { s with store } ts :=
  ⟨hstore, h.distinct, h.running, h.stopped⟩

/-- Setting a trigger stores it, and schedules it if the scheduler runs. -/
theorem place (h : s.Mirrors ts) {t : Trigger} (hkeep : s.store.archive.CanKeep t)
    (now : Instant) : (s.place t now).2.Mirrors (ts.put t) := by
  obtain ⟨hok, hstore⟩ := h.store.put hkeep
  rcases place_cases s t now with ⟨hstop, he⟩ | ⟨hrun, he⟩ <;> rw [he]
  · have hstop := hstop hok
    exact ⟨hstore, h.distinct.put t, fun hrun ↦ absurd (hstop.symm.trans hrun) Bool.false_ne_true,
      h.stopped⟩
  · refine ⟨hstore, h.distinct.put t, fun _ tenant ↦ ?_, fun hstop ↦ ?_⟩
    · rw [scheduled?_schedule, Triggers.get?_put]
      split
      · rfl
      · exact h.running hrun tenant
    · exact absurd (hstop.symm.trans hrun) Bool.false_ne_true

end Mirrors

/-- Scheduling triggers one after the other. -/
theorem scheduled?_foldl_schedule (s : Scheduler) {triggers : List Trigger}
    (hd : (triggers.map Trigger.tenant).Nodup) (tenant : String) :
    ((triggers.foldl schedule s).scheduled? tenant).map Scheduled.trigger =
      (Keyed.get? Trigger.tenant tenant triggers).or
        ((s.scheduled? tenant).map Scheduled.trigger) := by
  induction triggers generalizing s with
  | nil => rfl
  | cons t rest ih =>
    obtain ⟨ht, hrest⟩ := List.nodup_cons.mp hd
    rw [List.foldl_cons, ih _ hrest, scheduled?_schedule]
    by_cases htenant : t.tenant = tenant
    · have hnone : Keyed.get? Trigger.tenant tenant rest = none := by
        refine Option.eq_none_iff_forall_ne_some.mpr fun t' ht' ↦ ht ?_
        rw [htenant, ← Keyed.key_of_get? ht']
        exact List.mem_map_of_mem (List.mem_of_find?_eq_some ht')
      rw [hnone, if_pos htenant]
      simp [Keyed.get?, htenant]
    · rw [if_neg htenant]
      simp [Keyed.get?, htenant]

namespace Mirrors

/-- Timers may change while what is scheduled keeps its triggers. -/
theorem withTimers (h : s.Mirrors ts) {s' : Scheduler} (hstore : s'.store = s.store)
    (hrun : s'.isRunning = s.isRunning)
    (hscheduled : s'.isRunning = true → ∀ tenant, (s'.scheduled? tenant).map Scheduled.trigger =
      (s.scheduled? tenant).map Scheduled.trigger)
    (hstop : s.scheduled = [] → s'.scheduled = []) : s'.Mirrors ts where
  store := by rw [hstore]; exact h.store
  distinct := h.distinct
  running := fun hr tenant ↦ (hscheduled hr tenant).trans (h.running (hrun ▸ hr) tenant)
  stopped := fun hs ↦ hstop (h.stopped (hrun ▸ hs))

theorem start (h : s.Mirrors ts) : s.start.2.Mirrors ts := by
  obtain ⟨hlist, hstore⟩ := h.store.list
  rcases start_cases s with he | he | ⟨triggers, htriggers, hstop, he⟩ <;> rw [he]
  · exact h
  · exact h.withStore hstore
  · obtain rfl : ts.list = triggers := Except.ok.inj (hlist.symm.trans htriggers)
    have hd : (ts.list.map Trigger.tenant).Nodup :=
      ((List.mergeSort_perm _ _).map _).nodup_iff.mpr h.distinct
    refine ⟨?_, h.distinct, fun _ tenant ↦ ?_, fun hs ↦ ?_⟩
    · rw [foldl_schedule_eq Scheduler.store fun _ _ ↦ rfl]
      exact hstore
    · rw [scheduled?_foldl_schedule _ hd, Triggers.get?_list h.distinct, scheduled?,
        h.stopped hstop]
      simp [Keyed.get?]
    · rw [foldl_schedule_eq isRunning fun _ _ ↦ rfl] at hs
      contradiction

theorem erase (h : s.Mirrors ts) (tenant : String) :
    (s.erase tenant).2.Mirrors (ts.erase tenant) := by
  obtain ⟨hok, hstore⟩ := h.store.erase tenant
  rcases erase_cases s tenant with ⟨⟨e, herror⟩, -⟩ | he
  · rw [hok] at herror
    contradiction
  · rw [he]
    refine ⟨hstore, h.distinct.erase tenant, fun hrun tenant' ↦ ?_, fun hstop ↦ ?_⟩
    · rw [Triggers.get?_erase, scheduled?]
      split
      · next heq =>
        subst heq
        rw [Keyed.get?_erase_self]
        rfl
      · next hne =>
        rw [Keyed.get?_erase_of_ne Scheduled.tenant hne]
        exact h.running hrun tenant'
    · simp only [h.stopped hstop]
      rfl

theorem endTimer (h : s.Mirrors ts) (generation : Nat) : (s.endTimer generation).Mirrors ts :=
  h.withTimers rfl rfl (fun _ _ ↦ rfl) id

/-- What is scheduled and what is stored go together through every event. -/
theorem step (h : s.Mirrors ts) (ho : s.Orderly) (e : SchedulerEvent)
    (hkeep : ∀ t ∈ s.written e, s.store.archive.CanKeep t) :
    ∃ ts', (s.step e).Mirrors ts' ∧ Change s ts e ts' := by
  cases e with
  | start => exact ⟨ts, h.start, .same rfl⟩
  | stop =>
    refine ⟨ts, ?_, .same rfl⟩
    rw [Scheduler.step, stop]
    split
    · exact ⟨h.store, h.distinct, fun hrun ↦ by contradiction, fun _ ↦ rfl⟩
    · exact h
  | upsert t now =>
    rcases upsert_cases s t now with he | he <;> rw [Scheduler.step, he]
    · exact ⟨ts, h, .same rfl⟩
    · exact ⟨ts.put t, h.place (hkeep t (List.mem_singleton_self t)) now, .upsert t now⟩
  | reconfigure tenant interval start now =>
    obtain ⟨hgot, hstore⟩ := h.store.get tenant
    have hwritten : s.written (.reconfigure tenant interval start now) =
        [{ tenant, interval, start, lastFired := (ts.get? tenant).bind Trigger.lastFired }] := by
      rw [written, h.stored?_eq, h.reset_eq]
    rcases reconfigure_cases s tenant interval start now with he | he | ⟨stored, hstored, he⟩ <;>
      rw [Scheduler.step, he]
    · exact ⟨ts, h, .same rfl⟩
    · exact ⟨ts, h.withStore hstore, .same rfl⟩
    · obtain rfl : ts.get? tenant = stored := Except.ok.inj (hgot.symm.trans hstored)
      refine ⟨_, ?_, .reconfigure tenant interval start now⟩
      have hkeep' : (s.store.get tenant).2.archive.CanKeep
          (s.reset (ts.get? tenant) tenant interval start) := by
        rw [TriggerStore.archive_get, h.reset_eq]
        exact hkeep _ (hwritten ▸ List.mem_singleton_self _)
      have hplaced := (h.withStore hstore).place hkeep' now
      rwa [h.reset_eq] at hplaced ⊢
  | erase tenant => exact ⟨_, h.erase tenant, .erase tenant⟩
  | look tenant => exact ⟨ts, h.withStore (h.store.get tenant).2, .same rfl⟩
  | arm generation now clock =>
    refine ⟨ts, ?_, .same rfl⟩
    rcases arm_cases s generation now clock with he | ⟨t, ht, -, ⟨-, he⟩ | ⟨hl, due, he⟩⟩ <;>
      rw [Scheduler.step, he]
    · exact h
    · exact h.endTimer generation
    · obtain ⟨next, hc⟩ := ho.scheduled_of_live ht hl
      refine h.withTimers rfl rfl (fun _ tenant ↦ ?_) fun hnone ↦ ?_
      · rw [scheduled?_update]
        split
        · next htenant =>
          rw [← htenant, hc]
          rfl
        · rfl
      · rw [scheduled?, hnone] at hc
        contradiction
  | fire generation =>
    rcases noted_cases s generation with
      ⟨hnoted, he | ⟨t, -, -, -, he⟩⟩ | ⟨t, fireAt, due, ht, hstage, hl, hnoted, he⟩ <;>
      rw [Scheduler.step, he]
    · exact ⟨ts, h, .same hnoted⟩
    · exact ⟨ts, h.endTimer generation, .same hnoted⟩
    · obtain ⟨hrun, hstored⟩ := h.stored_of_live ho ht hl
      have hwritten : s.written (.fire generation) = [(fired t fireAt).trigger] := by
        simp only [written, ht, hstage]
      have hput := (h.store.put (hkeep _ (hwritten ▸ List.mem_singleton_self _))).2
      refine ⟨_, ⟨hput, h.distinct.put _, fun _ tenant ↦ ?_, fun hstop ↦ ?_⟩,
        .fire ((ho.timer?_eq_some_iff _ t).mp ht).1 hstage hstored hnoted⟩
      · rw [scheduled?_update, Triggers.get?_put]
        split
        · rfl
        · exact h.running hrun tenant
      · exact absurd (hstop.symm.trans hrun) Bool.false_ne_true
  | send generation =>
    refine ⟨ts, ?_, .same rfl⟩
    rcases send_cases ho.isOpen generation with he | ⟨t, f, -, -, -, he⟩ <;>
      rw [Scheduler.step, he]
    · exact h
    · exact h.withTimers rfl rfl (fun _ _ ↦ rfl) id
  | cutOff generation =>
    refine ⟨ts, ?_, .same rfl⟩
    rcases cutOff_cases s generation with he | ⟨t, -, -, he⟩ <;> rw [Scheduler.step, he]
    · exact h
    · exact h.endTimer generation
  | receive =>
    refine ⟨ts, ?_, .same rfl⟩
    rw [Scheduler.step, receive]
    split
    · exact h
    · exact h.withTimers rfl rfl (fun _ _ ↦ rfl) id

end Mirrors

/-! ## Fire times -/

/-- A timer that waits waits for a firing later than the last one of its trigger. -/
def Ahead (s : Scheduler) : Prop :=
  ∀ t ∈ s.timers, ∀ fireAt due, t.stage = .waiting fireAt due →
    ∀ last, t.trigger.lastFired = some last → last < fireAt

namespace Ahead

/-- Timers that do not wait, and those that were there, keep waiting ahead. -/
theorem of_mem (h : s.Ahead) {s' : Scheduler}
    (hmem : ∀ t ∈ s'.timers, t ∈ s.timers ∨ ∀ fireAt due, t.stage ≠ .waiting fireAt due) :
    s'.Ahead := by
  intro t ht fireAt due hstage
  rcases hmem t ht with hold | hnot
  · exact h t hold fireAt due hstage
  · exact absurd hstage (hnot fireAt due)

theorem withStore (h : s.Ahead) (store : TriggerStore) : Ahead { s with store } := h

theorem schedule (h : s.Ahead) (t : Trigger) : (s.schedule t).Ahead := by
  refine h.of_mem fun t' ht' ↦ ?_
  rcases List.mem_append.mp ht' with hold | hnew
  · exact Or.inl hold
  · rw [List.mem_singleton.mp hnew]
    exact Or.inr fun _ _ ↦ TimerStage.noConfusion

theorem foldl_schedule (h : s.Ahead) (triggers : List Trigger) :
    (triggers.foldl Scheduler.schedule s).Ahead :=
  List.foldlRecOn triggers Scheduler.schedule h fun _ hs t _ ↦ hs.schedule t

theorem place (h : s.Ahead) (t : Trigger) (now : Instant) : (s.place t now).2.Ahead := by
  rcases place_cases s t now with ⟨-, he⟩ | ⟨-, he⟩ <;> rw [he]
  · exact h
  · exact (h.withStore _).schedule t

theorem endTimer (h : s.Ahead) (generation : Nat) : (s.endTimer generation).Ahead :=
  h.of_mem fun _ ht ↦ Or.inl (List.mem_filter.mp ht).1

theorem step (h : s.Ahead) (ho : s.Orderly) (e : SchedulerEvent)
    (hplan : ∀ t ∈ s.planned e, t.CanPlan) : (s.step e).Ahead := by
  cases e with
  | start =>
    rcases start_cases s with he | he | ⟨triggers, -, -, he⟩ <;> rw [Scheduler.step, he]
    · exact h
    · exact h
    · exact foldl_schedule (s := { s with store := _, isRunning := true }) h triggers
  | stop =>
    rw [Scheduler.step, stop]
    split <;> exact h
  | upsert t now =>
    rcases upsert_cases s t now with he | he <;> rw [Scheduler.step, he]
    · exact h
    · exact h.place t now
  | reconfigure tenant interval start now =>
    rcases reconfigure_cases s tenant interval start now with he | he | ⟨_, -, he⟩ <;>
      rw [Scheduler.step, he]
    · exact h
    · exact h
    · exact (h.withStore _).place _ now
  | erase tenant =>
    rcases erase_cases s tenant with ⟨-, he⟩ | he <;> rw [Scheduler.step, he] <;> exact h
  | look tenant => exact h
  | arm generation now clock =>
    rcases arm_cases s generation now clock with he | ⟨t, ht, -, ⟨-, he⟩ | ⟨-, due, he⟩⟩ <;>
      rw [Scheduler.step, he]
    · exact h
    · exact h.endTimer generation
    · have hcan : t.trigger.CanPlan := by
        refine hplan _ ?_
        rw [planned, ht]
        exact List.mem_singleton_self _
      intro t' ht' fireAt due' hstage last hlast
      rcases Keyed.mem_of_mem_put ht' with rfl | hold
      · obtain ⟨rfl, -⟩ := TimerStage.waiting.inj hstage
        exact Trigger.lastFired_lt_nextFire hcan now hlast
      · exact h t' hold fireAt due' hstage last hlast
  | fire generation =>
    rcases fire_cases s generation with he | ⟨t, fireAt, due, -, -, ⟨-, he⟩ | ⟨-, he⟩⟩ <;>
      rw [Scheduler.step, he]
    · exact h
    · exact h.endTimer generation
    · refine h.of_mem fun t' ht' ↦ ?_
      rcases Keyed.mem_of_mem_put ht' with rfl | hold
      · exact Or.inr fun _ _ ↦ TimerStage.noConfusion
      · exact Or.inl hold
  | send generation =>
    rcases send_cases ho.isOpen generation with he | ⟨t, f, -, -, -, he⟩ <;>
      rw [Scheduler.step, he]
    · exact h
    · refine h.of_mem fun t' ht' ↦ ?_
      rcases Keyed.mem_of_mem_put ht' with rfl | hold
      · exact Or.inr fun _ _ ↦ TimerStage.noConfusion
      · exact Or.inl hold
  | cutOff generation =>
    rcases cutOff_cases s generation with he | ⟨t, -, -, he⟩ <;> rw [Scheduler.step, he]
    · exact h
    · exact h.endTimer generation
  | receive =>
    rw [Scheduler.step, receive]
    split <;> exact h

theorem after (h : s.Ahead) (ho : s.Orderly) {events : List SchedulerEvent}
    (hplan : ∀ t ∈ s.collect planned events, t.CanPlan) : (s.after events).Ahead := by
  induction events generalizing s with
  | nil => exact h
  | cons e rest ih =>
    obtain ⟨he, hrest⟩ := List.forall_mem_append.mp hplan
    exact ih (h.step ho e he) (ho.step e) hrest

end Ahead

/-- A missing trigger stays so unless it is set. -/
theorem Change.get?_eq_none {e : SchedulerEvent} {ts' : Triggers} (h : Change s ts e ts')
    {tenant : String} (hnone : ts.get? tenant = none) (hset : e.set? ≠ some tenant) :
    ts'.get? tenant = none := by
  cases h with
  | same => exact hnone
  | erase => rw [Triggers.get?_erase, hnone, ite_self]
  | upsert t => rw [Triggers.get?_put, if_neg fun he ↦ hset (congrArg some he), hnone]
  | reconfigure => rw [Triggers.get?_put, if_neg fun he ↦ hset (congrArg some he), hnone]
  | fire ht hstage hstored =>
    rw [Triggers.get?_put, hnone]
    refine if_neg fun he ↦ ?_
    subst he
    exact Option.some_ne_none _ (hstored.symm.trans hnone)

/-- An event notes a firing of a tenant and stores its time, which is later than the one stored
before, or leaves the last firing as it is. -/
theorem Change.lastFired {e : SchedulerEvent} {ts' : Triggers} (h : Change s ts e ts')
    (hahead : s.Ahead) {tenant : String} (hreset : e.reset? ≠ some tenant) :
    notedTimes tenant s e = [] ∧
        (ts'.get? tenant).bind Trigger.lastFired = (ts.get? tenant).bind Trigger.lastFired ∨
      ∃ time, notedTimes tenant s e = [time] ∧
        (ts'.get? tenant).bind Trigger.lastFired = some time ∧
        ∀ last, (ts.get? tenant).bind Trigger.lastFired = some last → last < time := by
  cases h with
  | same hnoted => exact Or.inl ⟨by rw [notedTimes, hnoted]; rfl, rfl⟩
  | erase gone =>
    refine Or.inl ⟨rfl, ?_⟩
    rw [Triggers.get?_erase, if_neg fun he ↦ hreset (congrArg some he)]
  | upsert t =>
    refine Or.inl ⟨rfl, ?_⟩
    rw [Triggers.get?_put, if_neg fun he ↦ hreset (congrArg some he)]
  | reconfigure tenant' =>
    refine Or.inl ⟨rfl, ?_⟩
    rw [Triggers.get?_put]
    split
    · next he =>
      subst he
      rfl
    · rfl
  | @fire generation t fireAt due ht hstage hstored hnoted =>
    by_cases he : t.trigger.tenant = tenant
    · subst he
      refine Or.inr ⟨fireAt, ?_, ?_, ?_⟩
      · simp [notedTimes, hnoted]
      · rw [Triggers.get?_put]
        exact congrArg (Option.bind · Trigger.lastFired) (if_pos rfl)
      · rw [hstored]
        exact hahead t ht fireAt due hstage
    · refine Or.inl ⟨?_, ?_⟩
      · simp [notedTimes, hnoted, he]
      · rw [Triggers.get?_put]
        exact congrArg (Option.bind · Trigger.lastFired) (if_neg he)

/-! ## Runs -/

/-- A scheduler that has served, with these triggers stored. -/
structure Kept (s : Scheduler) (ts : Triggers) : Prop where
  orderly : s.Orderly
  mirrors : s.Mirrors ts

theorem canServe_append {before more : List SchedulerEvent} (h : s.CanServe (before ++ more)) :
    s.CanServe before ∧ (s.after before).CanServe more := by
  induction before generalizing s with
  | nil => exact ⟨trivial, h⟩
  | cons e rest ih =>
    obtain ⟨hbefore, hmore⟩ := ih h.2
    exact ⟨⟨h.1, hbefore⟩, hmore⟩

namespace Kept

theorem ofStore {store : TriggerStore} (h : store.Holds ts) (hd : ts.Distinct) :
    (ofStore store).Kept ts :=
  ⟨.ofStore store, .ofStore h hd⟩

theorem step (h : s.Kept ts) {e : SchedulerEvent}
    (hkeep : ∀ t ∈ s.written e, s.store.archive.CanKeep t) :
    ∃ ts', (s.step e).Kept ts' ∧ Change s ts e ts' := by
  obtain ⟨ts', hmirrors, hchange⟩ := h.mirrors.step h.orderly e hkeep
  exact ⟨ts', ⟨h.orderly.step e, hmirrors⟩, hchange⟩

theorem after (h : s.Kept ts) {events : List SchedulerEvent} (hserve : s.CanServe events) :
    ∃ ts', (s.after events).Kept ts' := by
  induction events generalizing s ts with
  | nil => exact ⟨ts, h⟩
  | cons e rest ih =>
    obtain ⟨ts', h', -⟩ := h.step hserve.1
    exact ih h' hserve.2

/-- A live timer has the stored trigger of its tenant, and each stored trigger has a live timer. -/
theorem stored_iff (h : s.Kept ts) (hrun : s.isRunning = true) (trigger : Trigger) :
    s.stored? trigger.tenant = some trigger ↔
      ∃ t ∈ s.timers, s.isLive t = true ∧ t.trigger = trigger := by
  rw [h.mirrors.stored?_eq]
  constructor
  · intro hstored
    rw [← h.mirrors.running hrun] at hstored
    obtain ⟨c, hc, rfl⟩ := Option.map_eq_some_iff.mp hstored
    obtain ⟨t, ht, htrigger⟩ := h.orderly.own _ c hc
    exact ⟨t, ((h.orderly.timer?_eq_some_iff _ t).mp ht).1,
      (h.orderly.scheduled_of_timer ht hc).2.2, htrigger⟩
  · rintro ⟨t, ht, hl, rfl⟩
    exact (h.mirrors.stored_of_live h.orderly (h.orderly.timer?_self ht) hl).2

/-- A missing trigger stays so until it is set. -/
theorem missing_after (h : s.Kept ts) {events : List SchedulerEvent} (hserve : s.CanServe events)
    {tenant : String} (hnone : s.stored? tenant = none)
    (hset : ∀ e ∈ events, e.set? ≠ some tenant) : (s.after events).stored? tenant = none := by
  induction events generalizing s ts with
  | nil => exact hnone
  | cons e rest ih =>
    obtain ⟨ts', h', hchange⟩ := h.step hserve.1
    obtain ⟨he, hrest⟩ := List.forall_mem_cons.mp hset
    rw [h.mirrors.stored?_eq] at hnone
    refine ih h' hserve.2 ?_ hrest
    rw [h'.mirrors.stored?_eq]
    exact hchange.get?_eq_none hnone he

/-- The firings of a tenant are noted at increasing times, and the last of them is stored. -/
theorem times_after (h : s.Kept ts) (hahead : s.Ahead) {events : List SchedulerEvent}
    (hserve : s.CanServe events) (hplan : ∀ t ∈ s.collect planned events, t.CanPlan)
    {tenant : String} (hreset : ∀ e ∈ events, e.reset? ≠ some tenant) :
    let times := (s.lastStored tenant).toList ++ s.collect (notedTimes tenant) events
    times.Pairwise (· < ·) ∧ (s.after events).lastStored tenant = times.getLast? := by
  induction events generalizing s ts with
  | nil =>
    simp only [collect, after_nil, List.append_nil]
    cases s.lastStored tenant with
    | none => exact ⟨List.Pairwise.nil, rfl⟩
    | some last => exact ⟨List.pairwise_singleton _ _, rfl⟩
  | cons e rest ih =>
    obtain ⟨ts', h', hchange⟩ := h.step hserve.1
    obtain ⟨he, hrest⟩ := List.forall_mem_cons.mp hreset
    obtain ⟨hplane, hplanrest⟩ := List.forall_mem_append.mp hplan
    obtain ⟨hincreasing, hlast⟩ :=
      ih h' (hahead.step h.orderly e hplane) hserve.2 hplanrest hrest
    rw [h'.mirrors.lastStored_eq] at hincreasing hlast
    rw [h.mirrors.lastStored_eq, collect, after_cons]
    rcases hchange.lastFired hahead he with ⟨hnone, hsame⟩ | ⟨time, htime, hnew, hlater⟩
    · rw [hsame] at hincreasing hlast
      rw [hnone, List.nil_append]
      exact ⟨hincreasing, hlast⟩
    · rw [hnew, Option.toList_some] at hincreasing hlast
      rw [htime]
      cases hold : (ts.get? tenant).bind Trigger.lastFired with
      | none => exact ⟨hincreasing, hlast⟩
      | some last =>
        have hlt := hlater last hold
        refine ⟨List.pairwise_cons.mpr ⟨?_, hincreasing⟩, ?_⟩
        · intro t ht
          rcases List.mem_cons.mp ht with rfl | ht
          · exact hlt
          · exact Int.lt_trans hlt ((List.pairwise_cons.mp hincreasing).1 t ht)
        · rw [hlast]
          rfl

end Kept

/-- A scheduler on a store that does not fail, after any events `before` and then any events `more`.
Of the timers of a tenant at most one is live, and a stale one never writes to the store again.
While the scheduler runs, what is scheduled is what is stored, and the stored triggers are those of
the live timers; a trigger that is missing stays so until it is set. While a tenant's trigger is
neither removed nor replaced as it is, its firings are noted at increasing times, later than the
last firing stored before them, and the last of them is stored; for this the calendar has to go on
for another month wherever a timer works out when to fire by months. -/
theorem one_timer_and_increasing_times {store : TriggerStore} {ts : Triggers}
    (hstore : store.Holds ts) (hdistinct : ts.Distinct) (before more : List SchedulerEvent)
    (hserve : (ofStore store).CanServe (before ++ more)) :
    let s := (ofStore store).after before
    let s' := s.after more
    (∀ t ∈ s.timers, ∀ t' ∈ s.timers, s.isLive t = true → s.isLive t' = true →
      t.trigger.tenant = t'.trigger.tenant → t = t') ∧
    (∀ t ∈ s.timers, s.isLive t = false → ∀ e : SchedulerEvent,
      e.timer? = some t.generation → (s'.step e).store = s'.store) ∧
    (s.isRunning = true → (s.scheduled.map Scheduled.tenant).Nodup ∧
      (∀ tenant, (s.scheduled? tenant).map Scheduled.trigger = s.stored? tenant) ∧
      ∀ trigger, s.stored? trigger.tenant = some trigger ↔
        ∃ t ∈ s.timers, s.isLive t = true ∧ t.trigger = trigger) ∧
    (∀ tenant, s.stored? tenant = none → (∀ e ∈ more, e.set? ≠ some tenant) →
      s'.stored? tenant = none) ∧
    ((∀ t ∈ (ofStore store).collect planned (before ++ more), t.CanPlan) →
      ∀ tenant, (∀ e ∈ more, e.reset? ≠ some tenant) →
        let times := (s.lastStored tenant).toList ++ s.collect (notedTimes tenant) more
        times.Pairwise (· < ·) ∧ s'.lastStored tenant = times.getLast?) := by
  intro s s'
  obtain ⟨hbefore, hmore⟩ := canServe_append hserve
  obtain ⟨ts', h⟩ := (Kept.ofStore hstore hdistinct).after hbefore
  refine ⟨?_, ?_, ?_, ?_, ?_⟩
  · exact fun t ht t' ht' hl hl' he ↦ h.orderly.live_unique ht ht' hl hl' he
  · intro t ht hl e he
    exact ((h.orderly.retired_of_stale ht hl).after h.orderly more).store_step
      (h.orderly.after more) he
  · intro hrun
    refine ⟨h.orderly.scheduled, fun tenant ↦ ?_, h.stored_iff hrun⟩
    rw [h.mirrors.running hrun, h.mirrors.stored?_eq]
  · exact fun tenant hnone hset ↦ h.missing_after hmore hnone hset
  · intro hplan tenant hreset
    rw [collect_append] at hplan
    obtain ⟨hplanbefore, hplanmore⟩ := List.forall_mem_append.mp hplan
    have hahead : s.Ahead := by
      refine Ahead.after ?_ (.ofStore store) hplanbefore
      exact fun _ ht ↦ absurd ht List.not_mem_nil
    exact h.times_after hahead hmore hplanmore hreset

/-- A timer is replaced while it waits, and goes on; the new one fires twice. -/
theorem one_timer_and_increasing_times_replaced :
    let daily : Trigger := { tenant := "a", interval := .daily, start := default }
    let firings : List SchedulerEvent :=
      [.fire 1, .arm 2 default 0, .fire 2, .send 2, .arm 2 default 0, .fire 2, .stop]
    let s := (ofStore { archive := .memory ⟨[daily]⟩ }).after
      [.start, .arm 1 default 0, .reconfigure "a" .daily default default]
    let s' := s.after firings
    let times := (s.lastStored "a").toList ++ s.collect (notedTimes "a") firings
    (∃ t ∈ s.timers, s.isLive t = false) ∧
      (∀ t ∈ s.timers, s.isLive t = false → ∀ e : SchedulerEvent,
        e.timer? = some t.generation → (s'.step e).store = s'.store) ∧
      times.length = 2 ∧ times.Pairwise (· < ·) ∧ s'.lastStored "a" = times.getLast? := by
  intro daily firings s s' times
  have hstore : TriggerStore.Holds { archive := .memory ⟨[daily]⟩ } ⟨[daily]⟩ :=
    ⟨rfl, List.forall_mem_nil _⟩
  have h := one_timer_and_increasing_times hstore (List.pairwise_singleton _ _)
    [.start, .arm 1 default 0, .reconfigure "a" .daily default default] firings (by decide +kernel)
  have htimes := h.2.2.2.2 (by decide +kernel) "a" (by decide)
  exact ⟨by decide +kernel, h.2.1, by decide +kernel, htimes⟩

end Scheduler
end UsageReports
