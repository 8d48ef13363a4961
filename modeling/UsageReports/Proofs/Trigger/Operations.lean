import UsageReports.Proofs.Trigger.Missing

/-!
# Operations of a scheduler

An operation that fails leaves a scheduler as it was. Whatever is stored and whichever calls to the
store fail, every way to fail comes before the first change. One that succeeds changes the trigger
and the timer of the tenant that it names and of no other; starting adds a timer for each stored
trigger and changes nothing else.
-/

namespace UsageReports

/-! ## Archives -/

/-- The triggers of a table have the tenants of its rows, in their order. -/
theorem TriggerRow.tenants_of_mapM_decode {rows : List TriggerRow} {triggers : List Trigger}
    (h : rows.mapM decode = .ok triggers) :
    triggers.map Trigger.tenant = rows.map TriggerRow.tenant := by
  induction rows generalizing triggers with
  | nil =>
    obtain rfl := Except.ok.inj h
    rfl
  | cons row rest ih =>
    rw [List.mapM_cons] at h
    cases hrow : row.decode with
    | error e =>
      rw [hrow] at h
      contradiction
    | ok t =>
      cases hrest : rest.mapM decode with
      | error e =>
        rw [hrow, hrest] at h
        contradiction
      | ok others =>
        rw [hrow, hrest] at h
        obtain rfl : t :: others = triggers := Except.ok.inj h
        rw [List.map_cons, List.map_cons, ih hrest, tenant_of_decode hrow]

namespace TriggerArchive

variable {a : TriggerArchive} {t : Trigger} {tenant : String}

/-- Whether each tenant has at most one trigger. -/
def Distinct : TriggerArchive → Prop
  | memory triggers => triggers.Distinct
  | table rows => (rows.rows.map TriggerRow.tenant).Nodup

theorem Distinct.put (h : a.Distinct) (t : Trigger) : (a.put t).Distinct := by
  cases a with
  | memory triggers => exact Triggers.Distinct.put h t
  | table rows => exact Keyed.nodup_put TriggerRow.tenant (.ofTrigger t) h

theorem Distinct.erase (h : a.Distinct) (tenant : String) : (a.erase tenant).Distinct := by
  cases a with
  | memory triggers => exact Triggers.Distinct.erase h tenant
  | table rows => exact Keyed.nodup_erase TriggerRow.tenant tenant h

/-- What is listed has each tenant at most once. -/
theorem Distinct.nodup_list (h : a.Distinct) {triggers : List Trigger}
    (hlist : a.list = .ok triggers) : (triggers.map Trigger.tenant).Nodup := by
  cases a with
  | memory stored =>
    obtain rfl := Except.ok.inj hlist
    exact ((List.mergeSort_perm _ _).map _).nodup_iff.mpr h
  | table rows =>
    rw [TriggerRow.tenants_of_mapM_decode hlist]
    exact ((List.mergeSort_perm _ _).map _).nodup_iff.mpr h

/-- Storing a trigger changes nothing for other tenants. -/
theorem get_put_of_ne (h : t.tenant ≠ tenant) : (a.put t).get tenant = a.get tenant := by
  cases a with
  | memory triggers => rw [put, get, get, Triggers.get?_put, if_neg h]
  | table rows =>
    have hrow := Keyed.get?_put_of_ne TriggerRow.tenant (a := .ofTrigger t) h rows.rows
    simp only [put, get, TriggerTable.get, TriggerTable.put, TriggerTable.putRow, hrow]

/-- Removing a trigger changes nothing for other tenants. -/
theorem get_erase_of_ne {gone : String} (h : gone ≠ tenant) :
    (a.erase gone).get tenant = a.get tenant := by
  cases a with
  | memory triggers => rw [erase, get, get, Triggers.get?_erase, if_neg h]
  | table rows =>
    have hrow := Keyed.get?_erase_of_ne TriggerRow.tenant h rows.rows
    simp only [erase, get, TriggerTable.get, TriggerTable.erase, hrow]

/-- Where nothing is stored there is nothing to remove. -/
theorem erase_of_contains_eq_false (h : a.contains tenant = false) : a.erase tenant = a := by
  cases a with
  | memory triggers =>
    have hnone : triggers.get? tenant = none := by simpa [contains] using h
    rw [erase, Triggers.erase, Keyed.erase_of_get?_eq_none hnone]
  | table rows =>
    have hnone : Keyed.get? TriggerRow.tenant tenant rows.rows = none := by
      simpa [contains] using h
    rw [erase, TriggerTable.erase, Keyed.erase_of_get?_eq_none hnone]

end TriggerArchive

namespace TriggerStore

/-- A trigger is stored, or the call fails and changes nothing. -/
theorem put_cases (s : TriggerStore) (t : Trigger) :
    (∃ e, (s.put t).1 = .error e) ∧ (s.put t).2.archive = s.archive ∨
      (s.put t).1 = .ok () ∧ (s.put t).2.archive = s.archive.put t := by
  rcases s.archive_call .put fun a ↦ .ok ((), a.put t) with h | ⟨_, _, hrun, hok, he⟩
  · exact Or.inl h
  · obtain ⟨-, rfl⟩ := Prod.mk.inj (Except.ok.inj hrun)
    exact Or.inr ⟨hok, he⟩

/-- What is stored is found, or the call fails. -/
theorem get_cases (s : TriggerStore) (tenant : String) :
    (∃ e, (s.get tenant).1 = .error e) ∨
      ∃ stored, (s.get tenant).1 = .ok stored ∧ s.archive.get tenant = .ok stored := by
  rcases s.archive_call .get fun a ↦ (a.get tenant).map fun t ↦ (t, a) with
    ⟨h, -⟩ | ⟨stored, _, hrun, hok, -⟩
  · exact Or.inl h
  · right
    refine ⟨stored, hok, ?_⟩
    cases hget : s.archive.get tenant with
    | error e =>
      rw [hget] at hrun
      contradiction
    | ok t =>
      rw [hget] at hrun
      obtain ⟨rfl, -⟩ := Prod.mk.inj (Except.ok.inj hrun)
      rfl

/-- A trigger is removed, or the call fails and changes nothing. -/
theorem erase_cases (s : TriggerStore) (tenant : String) :
    (∃ e, (s.erase tenant).1 = .error e) ∧ (s.erase tenant).2.archive = s.archive ∨
      (s.erase tenant).1 = .ok (s.archive.contains tenant) ∧
        (s.erase tenant).2.archive = s.archive.erase tenant := by
  rcases s.archive_call .delete fun a ↦ .ok (a.contains tenant, a.erase tenant) with
    h | ⟨_, _, hrun, hok, he⟩
  · exact Or.inl h
  · obtain ⟨rfl, rfl⟩ := Prod.mk.inj (Except.ok.inj hrun)
    exact Or.inr ⟨hok, he⟩

end TriggerStore

namespace Scheduler

/-! ## Changes -/

/-- The timers of a tenant that are live. -/
def liveTimers (s : Scheduler) (tenant : String) : List Timer :=
  s.timers.filter fun t ↦ t.trigger.tenant = tenant ∧ s.isLive t = true

/-- Whether a scheduler is as it was, with the same triggers stored. Only what coming calls to the
store meet may be another. -/
structure Unchanged (s s' : Scheduler) : Prop where
  archive : s'.store.archive = s.store.archive
  rest : s' = { s with store := s'.store }

/-- Whether a scheduler is as it was for all tenants but one. -/
structure SameBeside (s : Scheduler) (tenant : String) (s' : Scheduler) : Prop where
  isRunning : s'.isRunning = s.isRunning
  sent : s'.sent = s.sent
  isClosed : s'.isClosed = s.isClosed
  stored : ∀ other, tenant ≠ other → s'.store.archive.get other = s.store.archive.get other
  scheduled : ∀ other, tenant ≠ other → s'.scheduled? other = s.scheduled? other
  live : ∀ other, tenant ≠ other → s'.liveTimers other = s.liveTimers other

/-- Whether a trigger was stored, with a new timer in place of the one of its tenant if the
scheduler runs. -/
structure Sets (s : Scheduler) (t : Trigger) (s' : Scheduler) : Prop
    extends s.SameBeside t.tenant s' where
  archive : s'.store.archive = s.store.archive.put t
  timers : s'.timers =
    if s.isRunning then s.timers ++ [⟨s.generation + 1, t, .planning⟩] else s.timers
  task : s'.scheduled? t.tenant =
    if s.isRunning then some ⟨s.generation + 1, t, none⟩ else s.scheduled? t.tenant

/-- Whether the trigger of a tenant was removed, and its timer with it. -/
structure Removes (s : Scheduler) (tenant : String) (s' : Scheduler) : Prop
    extends s.SameBeside tenant s' where
  archive : s'.store.archive = s.store.archive.erase tenant
  timers : s'.timers = s.timers
  task : s'.scheduled? tenant = none
  stale : s'.liveTimers tenant = []

/-- What is scheduled for triggers that are given timers one after the other. -/
def scheduledFrom (generation : Nat) : List Trigger → List Scheduled
  | [] => []
  | t :: rest => ⟨generation + 1, t, none⟩ :: scheduledFrom (generation + 1) rest

/-- The timer that something is first scheduled with. -/
def newTimer (c : Scheduled) : Timer := ⟨c.generation, c.trigger, .planning⟩

/-- Whether a scheduler was started: it has a timer for each stored trigger besides those it had. -/
structure Starts (s s' : Scheduler) (triggers : List Trigger) : Prop where
  stored : s.store.archive.list = .ok triggers
  archive : s'.store.archive = s.store.archive
  rest : s' = { s with
    store := s'.store, isRunning := true, generation := s.generation + triggers.length
    scheduled := s.scheduled ++ scheduledFrom s.generation triggers
    timers := s.timers ++ (scheduledFrom s.generation triggers).map newTimer }

/-- What an operation may come to: it fails and changes nothing, or it succeeds with a change. -/
inductive AllOrNothing {α : Type} (s : Scheduler) (change : Scheduler → Prop) :
    Except TriggerError α × Scheduler → Prop
  | failed {e : TriggerError} {s' : Scheduler} (h : s.Unchanged s') :
      AllOrNothing s change (.error e, s')
  | done {a : α} {s' : Scheduler} (h : change s') : AllOrNothing s change (.ok a, s')

variable {s s' : Scheduler} {t : Trigger} {tenant : String}

theorem AllOrNothing.unchanged {α : Type} {change : Scheduler → Prop}
    {result : Except TriggerError α × Scheduler} (h : AllOrNothing s change result)
    {e : TriggerError} (he : result.1 = .error e) : s.Unchanged result.2 := by
  cases h with
  | failed h => exact h
  | done h => contradiction

theorem AllOrNothing.changed {α : Type} {change : Scheduler → Prop}
    {result : Except TriggerError α × Scheduler} (h : AllOrNothing s change result)
    {a : α} (ha : result.1 = .ok a) : change result.2 := by
  cases h with
  | failed h => contradiction
  | done h => exact h

theorem AllOrNothing.imp {α : Type} {change change' : Scheduler → Prop}
    {result : Except TriggerError α × Scheduler} (h : AllOrNothing s change result)
    (himp : ∀ s', change s' → change' s') : AllOrNothing s change' result := by
  cases h with
  | failed h => exact .failed h
  | done h => exact .done (himp _ h)

/-- It does not matter what coming calls to the store meet. -/
theorem AllOrNothing.of_store {α : Type} {store : TriggerStore}
    (hstore : store.archive = s.store.archive) {change : Scheduler → Prop}
    {result : Except TriggerError α × Scheduler}
    (h : AllOrNothing { s with store } change result) : AllOrNothing s change result := by
  cases h with
  | failed h => exact .failed ⟨h.archive.trans hstore, h.rest⟩
  | done h => exact .done h

theorem Sets.of_store {store : TriggerStore} (hstore : store.archive = s.store.archive)
    (h : Sets { s with store } t s') : s.Sets t s' where
  isRunning := h.isRunning
  sent := h.sent
  isClosed := h.isClosed
  stored := hstore ▸ h.stored
  scheduled := h.scheduled
  live := h.live
  archive := hstore ▸ h.archive
  timers := h.timers
  task := h.task

/-- Which timers of a tenant are live depends on what is scheduled for it. -/
theorem liveTimers_congr (htimers : s'.timers = s.timers)
    (hscheduled : s'.scheduled? tenant = s.scheduled? tenant) :
    s'.liveTimers tenant = s.liveTimers tenant := by
  unfold liveTimers
  rw [htimers]
  apply List.filter_congr
  intro t _
  by_cases ht : t.trigger.tenant = tenant
  · simp [isLive, ht, hscheduled]
  · simp [ht]

/-- A new timer of one tenant changes nothing about those of others. -/
theorem liveTimers_schedule_of_ne (s : Scheduler) (h : t.tenant ≠ tenant) :
    (s.schedule t).liveTimers tenant = s.liveTimers tenant := by
  have hscheduled : (s.schedule t).scheduled? tenant = s.scheduled? tenant := by
    rw [scheduled?_schedule, if_neg h]
  have hold : liveTimers { s.schedule t with timers := s.timers } tenant = s.liveTimers tenant :=
    liveTimers_congr rfl hscheduled
  have hnew : [(⟨s.generation + 1, t, .planning⟩ : Timer)].filter
      (fun t' ↦ t'.trigger.tenant = tenant ∧ (s.schedule t).isLive t' = true) = [] := by
    simp [h]
  rw [← hold, liveTimers, show (s.schedule t).timers = s.timers ++ _ from rfl,
    List.filter_append, hnew, List.append_nil]
  rfl

/-- Where nothing is scheduled no timer is live. -/
theorem liveTimers_eq_nil (h : s.scheduled? tenant = none) : s.liveTimers tenant = [] := by
  apply List.filter_eq_nil_iff.mpr
  intro t _ ht
  obtain ⟨htenant, hl⟩ := of_decide_eq_true ht
  rw [isLive, htenant, h] at hl
  contradiction

/-! ## Operations -/

theorem place_allOrNothing (s : Scheduler) (t : Trigger) (now : Instant) :
    AllOrNothing s (s.Sets t) (s.place t now) := by
  have hcases := s.store.put_cases t
  unfold place
  generalize s.store.put t = put at hcases
  obtain ⟨result, store⟩ := put
  rcases hcases with ⟨⟨e, rfl⟩, harchive⟩ | ⟨rfl, harchive⟩
  · exact .failed ⟨harchive, rfl⟩
  · have hstored : ∀ other, t.tenant ≠ other →
        store.archive.get other = s.store.archive.get other := by
      intro other hne
      rw [show store.archive = _ from harchive, TriggerArchive.get_put_of_ne hne]
    by_cases hrun : s.isRunning = true
    · simp only [if_pos hrun]
      refine .done ⟨⟨rfl, rfl, rfl, hstored, ?_, ?_⟩, harchive, ?_, ?_⟩
      · intro other hne
        rw [scheduled?_schedule, if_neg hne]
        rfl
      · intro other hne
        rw [liveTimers_schedule_of_ne _ hne]
        rfl
      · rw [if_pos hrun]
        rfl
      · rw [if_pos hrun, scheduled?_schedule, if_pos rfl]
    · simp only [if_neg hrun]
      refine .done ⟨⟨rfl, rfl, rfl, hstored, fun _ _ ↦ rfl, fun _ _ ↦ rfl⟩, harchive, ?_, ?_⟩
      · rw [if_neg hrun]
      · rw [if_neg hrun]
        rfl

theorem upsert_allOrNothing (s : Scheduler) (t : Trigger) (now : Instant) :
    AllOrNothing s (s.Sets t) (s.upsert t now) := by
  unfold upsert
  split
  · exact .failed ⟨rfl, rfl⟩
  · exact s.place_allOrNothing t now

theorem reconfigure_allOrNothing (s : Scheduler) (tenant : String) (interval : Interval)
    (start now : Instant) :
    AllOrNothing s
      (fun s' ↦ ∃ stored, s.store.archive.get tenant = .ok stored ∧
        s.Sets (s.reset stored tenant interval start) s')
      (s.reconfigure tenant interval start now) := by
  have harchive := s.store.archive_get tenant
  have hcases := s.store.get_cases tenant
  unfold reconfigure
  simp only
  split
  · exact .failed ⟨rfl, rfl⟩
  · generalize s.store.get tenant = got at harchive hcases
    obtain ⟨result, store⟩ := got
    rcases hcases with ⟨e, rfl⟩ | ⟨stored, rfl, hstored⟩
    · exact .failed ⟨harchive, rfl⟩
    · apply AllOrNothing.of_store harchive
      apply (place_allOrNothing _ (s.reset stored tenant interval start) now).imp
      exact fun s' h ↦ ⟨stored, hstored, h.of_store harchive⟩

theorem erase_allOrNothing (s : Scheduler) (tenant : String) :
    AllOrNothing s (s.Removes tenant) (s.erase tenant) := by
  have hcases := s.store.erase_cases tenant
  unfold erase
  generalize s.store.erase tenant = erased at hcases
  obtain ⟨result, store⟩ := erased
  rcases hcases with ⟨⟨e, rfl⟩, harchive⟩ | ⟨rfl, harchive⟩
  · exact .failed ⟨harchive, rfl⟩
  · simp only
    split
    · have hnone : Keyed.get? Scheduled.tenant tenant
          (Keyed.erase Scheduled.tenant tenant s.scheduled) = none :=
        Keyed.get?_erase_self Scheduled.tenant tenant s.scheduled
      have hothers : ∀ other, tenant ≠ other → Keyed.get? Scheduled.tenant other
          (Keyed.erase Scheduled.tenant tenant s.scheduled) = s.scheduled? other := by
        intro other hne
        exact Keyed.get?_erase_of_ne Scheduled.tenant hne s.scheduled
      refine .done ⟨⟨rfl, rfl, rfl, ?_, hothers, ?_⟩, harchive, rfl, hnone,
        liveTimers_eq_nil hnone⟩
      · intro other hne
        rw [show store.archive = _ from harchive, TriggerArchive.get_erase_of_ne hne]
      · intro other hne
        exact liveTimers_congr rfl (hothers other hne)
    · next hmissing =>
      -- Nothing was stored and nothing scheduled, so that nothing was removed.
      rw [Bool.or_eq_true, not_or, Bool.not_eq_true, Bool.not_eq_true] at hmissing
      obtain ⟨hstored, hscheduled⟩ := hmissing
      have hnone : Keyed.get? Scheduled.tenant tenant s.scheduled = none := by
        simpa [scheduled?] using hscheduled
      rw [Keyed.erase_of_get?_eq_none hnone]
      rw [TriggerArchive.erase_of_contains_eq_false hstored] at harchive
      exact .failed ⟨harchive, rfl⟩

/-- Triggers for which nothing is scheduled are given timers besides those that there are. -/
theorem foldl_schedule_of_new {s : Scheduler} {triggers : List Trigger}
    (hdistinct : (triggers.map Trigger.tenant).Nodup)
    (hnew : ∀ t ∈ triggers, s.scheduled? t.tenant = none) :
    triggers.foldl schedule s = { s with
      generation := s.generation + triggers.length
      scheduled := s.scheduled ++ scheduledFrom s.generation triggers
      timers := s.timers ++ (scheduledFrom s.generation triggers).map newTimer } := by
  induction triggers generalizing s with
  | nil => simp [scheduledFrom]
  | cons t rest ih =>
    obtain ⟨ht, hrest⟩ := List.nodup_cons.mp hdistinct
    obtain ⟨hnone, hothers⟩ := List.forall_mem_cons.mp hnew
    have hput : (s.schedule t).scheduled = s.scheduled ++ [⟨s.generation + 1, t, none⟩] :=
      Keyed.put_of_get?_eq_none (a := (⟨s.generation + 1, t, none⟩ : Scheduled)) hnone
    have hlater : ∀ t' ∈ rest, (s.schedule t).scheduled? t'.tenant = none := by
      intro t' ht'
      have hne : t.tenant ≠ t'.tenant := fun he ↦ ht (he ▸ List.mem_map_of_mem ht')
      rw [scheduled?_schedule, if_neg hne, hothers t' ht']
    rw [List.foldl_cons, ih hrest hlater, hput]
    simp [schedule, scheduledFrom, newTimer, Nat.add_comm, Nat.add_left_comm]

/-! ## Reachable schedulers -/

/-- Whether nothing is scheduled while a scheduler is stopped, and each tenant has at most one
stored trigger. -/
structure Tidy (s : Scheduler) : Prop where
  idle : s.isRunning = false → s.scheduled = []
  distinct : s.store.archive.Distinct

namespace Tidy

theorem withStore (h : s.Tidy) {store : TriggerStore} (hd : store.archive.Distinct) :
    Tidy { s with store } :=
  ⟨h.idle, hd⟩

theorem withPut (h : s.Tidy) (t : Trigger) : Tidy { s with store := (s.store.put t).2 } := by
  apply h.withStore
  rcases s.store.archive_put t with he | he
  · exact he ▸ h.distinct
  · exact he ▸ h.distinct.put t

theorem withTimers (h : s.Tidy) {scheduled : List Scheduled} (timers : List Timer)
    (generation : Nat) (hrun : s.isRunning = true) :
    Tidy { s with scheduled, timers, generation } :=
  ⟨fun hstop ↦ absurd hrun (by simp [show s.isRunning = false from hstop]), h.distinct⟩

theorem isRunning_of_live (h : s.Tidy) {timer : Timer} (hl : s.isLive timer = true) :
    s.isRunning = true := by
  apply Bool.of_not_eq_false
  intro hstop
  rw [isLive, scheduled?, h.idle hstop] at hl
  contradiction

theorem place (h : s.Tidy) (t : Trigger) (now : Instant) : (s.place t now).2.Tidy := by
  rcases place_cases s t now with ⟨-, he⟩ | ⟨hrun, he⟩
  · rw [he]
    exact h.withPut t
  · rw [he]
    exact (h.withPut t).withTimers _ _ hrun

theorem send (h : s.Tidy) (generation : Nat) : (s.send generation).Tidy := by
  unfold Scheduler.send
  split
  · split
    · split
      · exact ⟨h.idle, h.distinct⟩
      · split
        · exact ⟨h.idle, h.distinct⟩
        · exact h
    · exact h
  · exact h

/-- Every event leaves a scheduler tidy, whatever the calls to the store meet. -/
theorem step (h : s.Tidy) (e : SchedulerEvent) : (s.step e).Tidy := by
  cases e with
  | start =>
    have hlisted : s.store.list.2.archive.Distinct := s.store.archive_list.1 ▸ h.distinct
    rcases start_cases s with he | he | ⟨triggers, -, -, he⟩ <;> rw [Scheduler.step, he]
    · exact h
    · exact h.withStore hlisted
    · constructor
      · rw [foldl_schedule_eq isRunning fun _ _ ↦ rfl]
        intro hstop
        contradiction
      · rw [foldl_schedule_eq store fun _ _ ↦ rfl]
        exact hlisted
  | stop =>
    rw [Scheduler.step, stop]
    split
    · exact ⟨fun _ ↦ rfl, h.distinct⟩
    · exact h
  | upsert t now =>
    rcases upsert_cases s t now with he | he <;> rw [Scheduler.step, he]
    · exact h
    · exact h.place t now
  | reconfigure tenant interval start now =>
    have hgot : (s.store.get tenant).2.archive.Distinct :=
      s.store.archive_get tenant ▸ h.distinct
    rcases reconfigure_cases s tenant interval start now with he | he | ⟨_, -, he⟩ <;>
      rw [Scheduler.step, he]
    · exact h
    · exact h.withStore hgot
    · exact (h.withStore hgot).place _ now
  | erase tenant =>
    have herased : (s.store.erase tenant).2.archive.Distinct := by
      rcases s.store.archive_erase tenant with ⟨-, he⟩ | he
      · exact he ▸ h.distinct
      · exact he ▸ h.distinct.erase tenant
    rcases erase_cases s tenant with ⟨-, he⟩ | he <;> rw [Scheduler.step, he]
    · exact h.withStore herased
    · exact ⟨fun hstop ↦ by rw [h.idle hstop]; rfl, herased⟩
  | look tenant =>
    have hgot : (s.store.get tenant).2.archive.Distinct :=
      s.store.archive_get tenant ▸ h.distinct
    exact h.withStore hgot
  | arm generation now clock =>
    rcases arm_cases s generation now clock with he | ⟨t, -, -, ⟨-, he⟩ | ⟨hl, due, he⟩⟩ <;>
      rw [Scheduler.step, he]
    · exact h
    · exact ⟨h.idle, h.distinct⟩
    · exact h.withTimers _ _ (h.isRunning_of_live hl)
  | fire generation =>
    rcases fire_cases s generation with he | ⟨t, fireAt, due, -, -, ⟨-, he⟩ | ⟨hl, he⟩⟩ <;>
      rw [Scheduler.step, he]
    · exact h
    · exact ⟨h.idle, h.distinct⟩
    · exact (h.withPut _).withTimers _ _ (h.isRunning_of_live hl)
  | send generation => exact h.send generation
  | cutOff generation =>
    rcases cutOff_cases s generation with he | ⟨t, -, -, he⟩ <;> rw [Scheduler.step, he]
    · exact h
    · exact ⟨h.idle, h.distinct⟩
  | receive =>
    rw [Scheduler.step, receive]
    split
    · exact h
    · exact ⟨h.idle, h.distinct⟩

end Tidy

/-- Schedulers that there may be. One starts out stopped, over any stored triggers; then follow
events in any order, and firings may be taken no more. Between two events others may change what is
stored and what coming calls to the store meet. -/
inductive Reachable : Scheduler → Prop
  | new (store : TriggerStore) (hd : store.archive.Distinct) : Reachable (ofStore store)
  | step {s : Scheduler} (h : Reachable s) (e : SchedulerEvent) : Reachable (s.step e)
  | close {s : Scheduler} (h : Reachable s) : Reachable s.close
  | outside {s : Scheduler} (h : Reachable s) (store : TriggerStore)
      (hd : store.archive.Distinct) : Reachable { s with store }

theorem Reachable.tidy (h : s.Reachable) : s.Tidy := by
  induction h with
  | new store hd => exact ⟨fun _ ↦ rfl, hd⟩
  | step _ e ih => exact ih.step e
  | close _ ih => exact ⟨ih.idle, ih.distinct⟩
  | outside _ store hd ih => exact ih.withStore hd

theorem start_allOrNothing (h : s.Tidy) :
    AllOrNothing s
      (fun s' ↦ s.isRunning = true ∧ s' = s ∨
        s.isRunning = false ∧ ∃ triggers, s.Starts s' triggers) s.start := by
  have hlisted := s.store.archive_list
  unfold start
  split
  · next hrun => exact .done (Or.inl ⟨hrun, rfl⟩)
  · next hrun =>
    have hstop : s.isRunning = false := by simpa using hrun
    generalize s.store.list = listed at hlisted
    obtain ⟨_ | triggers, store⟩ := listed
    · exact .failed ⟨hlisted.1, rfl⟩
    · obtain ⟨harchive, hlist⟩ := hlisted
      have hnew : ∀ t ∈ triggers,
          scheduled? { s with store, isRunning := true } t.tenant = none := by
        intro t _
        rw [scheduled?, h.idle hstop]
        rfl
      have hnodup := h.distinct.nodup_list (hlist triggers rfl)
      simp only [foldl_schedule_of_new hnodup hnew]
      exact .done (Or.inr ⟨hstop, triggers, hlist triggers rfl, harchive, rfl⟩)

/-- An operation that fails leaves a scheduler with what it was and what was stored. One that
succeeds changes the trigger and the timer of the tenant that it names and nothing else; starting
adds timers for the stored triggers, each of a new generation, unless the scheduler runs already. -/
theorem operations_all_or_nothing (h : s.Reachable) :
    AllOrNothing s
        (fun s' ↦ s.isRunning = true ∧ s' = s ∨
          s.isRunning = false ∧ ∃ triggers, s.Starts s' triggers) s.start ∧
      (∀ t now, AllOrNothing s (s.Sets t) (s.upsert t now)) ∧
      (∀ tenant interval start now, AllOrNothing s
        (fun s' ↦ ∃ stored, s.store.archive.get tenant = .ok stored ∧
          s.Sets (s.reset stored tenant interval start) s')
        (s.reconfigure tenant interval start now)) ∧
      ∀ tenant, AllOrNothing s (s.Removes tenant) (s.erase tenant) :=
  ⟨start_allOrNothing h.tidy, s.upsert_allOrNothing, s.reconfigure_allOrNothing,
    s.erase_allOrNothing⟩

/-- The store is busy for one tenant's new trigger; then another's is removed. -/
theorem operations_all_or_nothing_busy :
    let daily : Trigger := { tenant := "a", interval := .daily, start := default }
    let s := ((ofStore { archive := .memory ⟨[daily]⟩ }).step .start).step (.arm 1 default 0)
    let busy : Scheduler :=
      { s with store := { s.store with coming := [(.put, some (.database .busy))] } }
    let failed := busy.upsert { daily with tenant := "b" } default
    let erased := failed.2.erase "a"
    failed.1 = .error (.store .put (.database .busy)) ∧ busy.Unchanged failed.2 ∧
      erased.1 = .ok () ∧ failed.2.Removes "a" erased.2 ∧
      (erased.2.erase "a").1 = .error (.notFound "a") ∧
      erased.2.Unchanged (erased.2.erase "a").2 := by
  intro daily s busy failed erased
  have hd : TriggerArchive.Distinct (.memory ⟨[daily]⟩) := List.pairwise_singleton _ _
  have hs : s.Reachable := ((Reachable.new _ hd).step .start).step (.arm 1 default 0)
  have hbusy : busy.Reachable := hs.outside _ hs.tidy.distinct
  have hfailed : failed.2.Reachable :=
    hbusy.step (.upsert { daily with tenant := "b" } default)
  have herased : erased.2.Reachable := hfailed.step (.erase "a")
  have hput : failed.1 = .error (.store .put (.database .busy)) := by decide +kernel
  have hgone : erased.1 = .ok () := by decide +kernel
  have hmissing : (erased.2.erase "a").1 = .error (.notFound "a") := by decide +kernel
  obtain ⟨-, hupsert, -, -⟩ := operations_all_or_nothing hbusy
  obtain ⟨-, -, -, herase⟩ := operations_all_or_nothing hfailed
  obtain ⟨-, -, -, hagain⟩ := operations_all_or_nothing herased
  exact ⟨hput, (hupsert _ _).unchanged hput, hgone, (herase "a").changed hgone, hmissing,
    (hagain "a").unchanged hmissing⟩

end Scheduler
end UsageReports
