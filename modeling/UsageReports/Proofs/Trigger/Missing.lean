import UsageReports.Proofs.Store.TriggerContents
import UsageReports.Proofs.Trigger.Delivery

/-!
# Missing triggers

A tenant whose trigger is neither stored nor scheduled has none until one is set, whatever becomes
of the calls to the store. If besides no firing of the tenant is on its way, none comes.
-/

namespace UsageReports

/-- A sequence of two steps that succeeds consists of two that do. -/
private theorem bind_eq_ok {α β ε : Type} {a : Except ε α} {f : α → Except ε β} {b : β}
    (h : a >>= f = .ok b) : ∃ x, a = .ok x ∧ f x = .ok b := by
  cases a with
  | error e => contradiction
  | ok x => exact ⟨x, rfl, h⟩

/-- What is read from a list is read from its entries. -/
private theorem exists_of_mem_mapM {α β ε : Type} {f : α → Except ε β} {entries : List α}
    {results : List β} (h : entries.mapM f = .ok results) {b : β} (hb : b ∈ results) :
    ∃ a ∈ entries, f a = .ok b := by
  induction entries generalizing results with
  | nil =>
    obtain rfl := Except.ok.inj h
    contradiction
  | cons a rest ih =>
    rw [List.mapM_cons] at h
    obtain ⟨x, hx, h⟩ := bind_eq_ok h
    obtain ⟨xs, hxs, h⟩ := bind_eq_ok h
    obtain rfl := Except.ok.inj h
    rcases List.mem_cons.mp hb with rfl | hb
    · exact ⟨a, List.mem_cons_self, hx⟩
    · obtain ⟨a', ha', hf⟩ := ih hxs hb
      exact ⟨a', List.mem_cons_of_mem a ha', hf⟩

/-- Reading a row keeps its tenant. -/
theorem TriggerRow.tenant_of_decode {row : TriggerRow} {t : Trigger} (h : row.decode = .ok t) :
    t.tenant = row.tenant := by
  simp only [decode, bind, Except.bind, pure, Except.pure] at h
  split at h
  · split at h
    · contradiction
    · split at h
      · rw [← Except.ok.inj h]
      · split at h
        · contradiction
        · rw [← Except.ok.inj h]
  · contradiction

namespace TriggerArchive

theorem contains_put {a : TriggerArchive} {t : Trigger} {tenant : String} (h : t.tenant ≠ tenant) :
    (a.put t).contains tenant = a.contains tenant := by
  cases a with
  | memory triggers =>
    rw [put, contains, contains, Triggers.get?_put, if_neg h]
  | table rows =>
    exact congrArg Option.isSome
      (Keyed.get?_put_of_ne TriggerRow.tenant (a := .ofTrigger t) h rows.rows)

theorem contains_erase (a : TriggerArchive) (gone tenant : String) :
    (a.erase gone).contains tenant = if gone = tenant then false else a.contains tenant := by
  cases a with
  | memory triggers =>
    rw [erase, contains, contains, Triggers.get?_erase]
    split <;> rfl
  | table rows =>
    rw [erase, contains, contains, TriggerTable.erase]
    split
    · next he =>
      subst he
      rw [Keyed.get?_erase_self]
      rfl
    · next hne => rw [Keyed.get?_erase_of_ne TriggerRow.tenant hne]

/-- Every listed trigger is stored. -/
theorem contains_of_mem_list {a : TriggerArchive} {ts : List Trigger} {t : Trigger}
    (h : a.list = .ok ts) (ht : t ∈ ts) : a.contains t.tenant = true := by
  cases a with
  | memory triggers =>
    obtain rfl := Except.ok.inj h
    exact List.find?_isSome.mpr ⟨t, List.mem_mergeSort.mp ht, decide_eq_true rfl⟩
  | table rows =>
    obtain ⟨row, hrow, hdecode⟩ := exists_of_mem_mapM h ht
    have htenant := TriggerRow.tenant_of_decode hdecode
    exact List.find?_isSome.mpr ⟨row, List.mem_mergeSort.mp hrow, decide_eq_true htenant.symm⟩

end TriggerArchive

namespace TriggerStore

/-- A call changes the archive only as it is to, and only if it succeeds. -/
theorem archive_call (s : TriggerStore) {α : Type} (op : StoreOperation)
    (run : TriggerArchive → Except StoreError (α × TriggerArchive)) :
    ((∃ e, (s.call op run).1 = .error e) ∧ (s.call op run).2.archive = s.archive) ∨
      ∃ answer archive, run s.archive = .ok (answer, archive) ∧
        (s.call op run).1 = .ok answer ∧ (s.call op run).2.archive = archive := by
  unfold TriggerStore.call
  obtain ⟨_ | e, coming⟩ := meet op s.coming
  · simp only
    cases hrun : run s.archive with
    | error e => exact Or.inl ⟨⟨_, rfl⟩, rfl⟩
    | ok result => exact Or.inr ⟨result.1, result.2, rfl, rfl, rfl⟩
  · exact Or.inl ⟨⟨_, rfl⟩, rfl⟩

theorem archive_put (s : TriggerStore) (t : Trigger) :
    (s.put t).2.archive = s.archive ∨ (s.put t).2.archive = s.archive.put t := by
  rcases s.archive_call .put fun a ↦ .ok ((), a.put t) with ⟨-, he⟩ | ⟨_, _, hrun, -, he⟩
  · exact Or.inl he
  · exact Or.inr (he.trans (Prod.mk.inj (Except.ok.inj hrun)).2.symm)

theorem archive_erase (s : TriggerStore) (tenant : String) :
    (∃ e, (s.erase tenant).1 = .error e) ∧ (s.erase tenant).2.archive = s.archive ∨
      (s.erase tenant).2.archive = s.archive.erase tenant := by
  rcases s.archive_call .delete fun a ↦ .ok (a.contains tenant, a.erase tenant) with
    h | ⟨_, _, hrun, -, he⟩
  · exact Or.inl h
  · exact Or.inr (he.trans (Prod.mk.inj (Except.ok.inj hrun)).2.symm)

theorem archive_list (s : TriggerStore) :
    s.list.2.archive = s.archive ∧ ∀ ts, s.list.1 = .ok ts → s.archive.list = .ok ts := by
  rcases s.archive_call .list fun a ↦ a.list.map fun ts ↦ (ts, a) with
    ⟨⟨e, herror⟩, he⟩ | ⟨answer, archive, hrun, hok, he⟩
  · refine ⟨he, fun ts hts ↦ ?_⟩
    have hboth : Except.ok ts = Except.error e := hts.symm.trans herror
    contradiction
  · cases hlist : s.archive.list with
    | error e =>
      rw [hlist] at hrun
      contradiction
    | ok listed =>
      rw [hlist] at hrun
      obtain ⟨rfl, rfl⟩ := Prod.mk.inj (Except.ok.inj hrun)
      refine ⟨he, fun ts hts ↦ ?_⟩
      obtain rfl : listed = ts := Except.ok.inj (hok.symm.trans hts)
      rfl

end TriggerStore

namespace Scheduler

/-- A tenant whose trigger is neither stored nor scheduled. -/
structure Missing (s : Scheduler) (tenant : String) : Prop where
  stored : s.store.archive.contains tenant = false
  scheduled : s.scheduled? tenant = none

/-- A tenant without a trigger, of which no firing is on its way. -/
structure Silent (s : Scheduler) (tenant : String) : Prop extends s.Missing tenant where
  held : ∀ f ∈ s.held, f.tenant ≠ tenant
  sent : ∀ f ∈ s.sent, f.tenant ≠ tenant

variable {s : Scheduler} {tenant : String}

/-- A tenant has no trigger once it was removed. -/
theorem missing_of_erase (h : (s.erase tenant).1 = .ok ()) : (s.erase tenant).2.Missing tenant := by
  have hok : ∀ e, (s.store.erase tenant).1 ≠ .error e := by
    intro e he
    unfold erase at h
    generalize s.store.erase tenant = erased at h he
    obtain ⟨_ | _, store⟩ := erased <;> contradiction
  rcases s.store.archive_erase tenant with ⟨⟨e, herror⟩, -⟩ | harchive
  · exact absurd herror (hok e)
  · rcases erase_cases s tenant with ⟨⟨e, herror⟩, -⟩ | he
    · exact absurd herror (hok e)
    · rw [he]
      refine ⟨?_, Keyed.get?_erase_self Scheduled.tenant tenant s.scheduled⟩
      rw [harchive, TriggerArchive.contains_erase, if_pos rfl]

namespace Missing

theorem withStore (h : s.Missing tenant) {store : TriggerStore}
    (hstore : store.archive.contains tenant = false) : Missing { s with store } tenant :=
  ⟨hstore, h.scheduled⟩

theorem schedule (h : s.Missing tenant) {t : Trigger} (ht : t.tenant ≠ tenant) :
    (s.schedule t).Missing tenant :=
  ⟨h.stored, by rw [scheduled?_schedule, if_neg ht, h.scheduled]⟩

theorem foldl_schedule (h : s.Missing tenant) {triggers : List Trigger}
    (ht : ∀ t ∈ triggers, t.tenant ≠ tenant) :
    (triggers.foldl Scheduler.schedule s).Missing tenant :=
  List.foldlRecOn (motive := fun s' ↦ s'.Missing tenant) triggers Scheduler.schedule h
    fun _ hs t hmem ↦ hs.schedule (ht t hmem)

theorem put (h : s.Missing tenant) {t : Trigger} (ht : t.tenant ≠ tenant) :
    (s.store.put t).2.archive.contains tenant = false := by
  rcases s.store.archive_put t with he | he
  · rw [he, h.stored]
  · rw [he, TriggerArchive.contains_put ht, h.stored]

theorem place (h : s.Missing tenant) {t : Trigger} (ht : t.tenant ≠ tenant) (now : Instant) :
    (s.place t now).2.Missing tenant := by
  rcases place_cases s t now with ⟨-, he⟩ | ⟨-, he⟩ <;> rw [he]
  · exact h.withStore (h.put ht)
  · exact (h.withStore (h.put ht)).schedule ht

/-- The live timers are those of other tenants. -/
theorem ne_of_live (h : s.Missing tenant) {t : Timer} (hl : s.isLive t = true) :
    t.trigger.tenant ≠ tenant := by
  rintro rfl
  obtain ⟨c, hc, -⟩ := isLive_iff t |>.mp hl
  rw [h.scheduled] at hc
  contradiction

theorem update (h : s.Missing tenant) {t : Timer} (ht : t.trigger.tenant ≠ tenant)
    (next : Option Instant) : (s.update t next).Missing tenant :=
  ⟨h.stored, by rw [scheduled?_update, if_neg ht, h.scheduled]⟩

/-- A missing trigger stays missing unless it is set. -/
theorem step (h : s.Missing tenant) (ho : s.Orderly) {e : SchedulerEvent}
    (he : e.set? ≠ some tenant) : (s.step e).Missing tenant := by
  cases e with
  | start =>
    obtain ⟨harchive, hlist⟩ := s.store.archive_list
    have hstore : s.store.list.2.archive.contains tenant = false := by rw [harchive, h.stored]
    rcases start_cases s with he | he | ⟨triggers, htriggers, -, he⟩ <;> rw [Scheduler.step, he]
    · exact h
    · exact h.withStore hstore
    · have hrun : Missing { s with store := s.store.list.2, isRunning := true } tenant :=
        ⟨hstore, h.scheduled⟩
      refine hrun.foldl_schedule fun t ht htenant ↦ ?_
      have hcontains := TriggerArchive.contains_of_mem_list (hlist triggers htriggers) ht
      rw [htenant, h.stored] at hcontains
      contradiction
  | stop =>
    rw [Scheduler.step, stop]
    split
    · exact ⟨h.stored, rfl⟩
    · exact h
  | upsert t now =>
    have ht : t.tenant ≠ tenant := fun heq ↦ he (congrArg some heq)
    rcases upsert_cases s t now with he | he <;> rw [Scheduler.step, he]
    · exact h
    · exact h.place ht now
  | reconfigure tenant' interval start now =>
    have ht : tenant' ≠ tenant := fun heq ↦ he (congrArg some heq)
    have hstore : (s.store.get tenant').2.archive.contains tenant = false := by
      rw [TriggerStore.archive_get, h.stored]
    rcases reconfigure_cases s tenant' interval start now with he | he | ⟨_, -, he⟩ <;>
      rw [Scheduler.step, he]
    · exact h
    · exact h.withStore hstore
    · exact (h.withStore hstore).place (t := s.reset _ tenant' interval start) ht now
  | erase tenant' =>
    have hstore : (s.store.erase tenant').2.archive.contains tenant = false := by
      rcases s.store.archive_erase tenant' with ⟨-, he⟩ | he
      · rw [he, h.stored]
      · rw [he, TriggerArchive.contains_erase, h.stored, ite_self]
    rcases erase_cases s tenant' with ⟨-, he⟩ | he <;> rw [Scheduler.step, he]
    · exact h.withStore hstore
    · refine ⟨hstore, ?_⟩
      by_cases heq : tenant' = tenant
      · subst heq
        exact Keyed.get?_erase_self Scheduled.tenant tenant' s.scheduled
      · exact (Keyed.get?_erase_of_ne Scheduled.tenant heq s.scheduled).trans h.scheduled
  | look tenant' =>
    have hstore : (s.store.get tenant').2.archive.contains tenant = false := by
      rw [TriggerStore.archive_get, h.stored]
    exact h.withStore hstore
  | arm generation now clock =>
    rcases arm_cases s generation now clock with he | ⟨t, -, -, ⟨-, he⟩ | ⟨hl, due, he⟩⟩ <;>
      rw [Scheduler.step, he]
    · exact h
    · exact ⟨h.stored, h.scheduled⟩
    · exact h.update (t := { t with stage := .waiting _ due }) (h.ne_of_live hl) _
  | fire generation =>
    rcases fire_cases s generation with he | ⟨t, fireAt, due, -, -, ⟨-, he⟩ | ⟨hl, he⟩⟩ <;>
      rw [Scheduler.step, he]
    · exact h
    · exact ⟨h.stored, h.scheduled⟩
    · have ht := h.ne_of_live hl
      have hput := h.put (t := (fired t fireAt).trigger) ht
      exact (h.withStore hput).update (t := fired t fireAt) ht none
  | send generation =>
    rcases send_cases ho.isOpen generation with he | ⟨t, f, -, -, -, he⟩ <;>
      rw [Scheduler.step, he]
    · exact h
    · exact ⟨h.stored, h.scheduled⟩
  | cutOff generation =>
    rcases cutOff_cases s generation with he | ⟨t, -, -, he⟩ <;> rw [Scheduler.step, he]
    · exact h
    · exact ⟨h.stored, h.scheduled⟩
  | receive =>
    rw [Scheduler.step, receive]
    split
    · exact h
    · exact ⟨h.stored, h.scheduled⟩

/-- No firing of a tenant without a trigger is noted. -/
theorem ne_of_noted (h : s.Missing tenant) (ho : s.Orderly) {e : SchedulerEvent}
    (he : e.set? ≠ some tenant) {f : Firing} (hf : f ∈ s.noted e) : f.tenant ≠ tenant := by
  rintro rfl
  obtain ⟨c, hc, -⟩ := scheduled?_of_noted hf
  rw [(h.step ho he).scheduled] at hc
  contradiction

end Missing

/-- The firings on their way after an event were on it before, or are noted by the event. -/
theorem Silent.step (h : s.Silent tenant) (ho : s.Orderly) {e : SchedulerEvent}
    (he : e.set? ≠ some tenant) : (s.step e).Silent tenant := by
  have hbefore : ∀ f ∈ s.held ++ s.noted e, f.tenant ≠ tenant :=
    List.forall_mem_append.mpr ⟨h.held, fun f hf ↦ h.toMissing.ne_of_noted ho he hf⟩
  have hafter : ∀ f ∈ (s.step e).held ++ (s.delivered e ++ s.lost e), f.tenant ≠ tenant :=
    fun f hf ↦ hbefore f ((ho.perm_step e).mem_iff.mpr hf)
  obtain ⟨hheld, hmoved⟩ := List.forall_mem_append.mp hafter
  refine ⟨h.toMissing.step ho he, hheld, fun f hf ↦ ?_⟩
  have hsent : f ∈ s.received e ++ (s.step e).sent := List.mem_append_right _ hf
  rw [received_append_sent ho.isOpen] at hsent
  rcases List.mem_append.mp hsent with hold | hnew
  · exact h.sent f hold
  · exact hmoved f (List.mem_append_left _ hnew)

end Scheduler

end UsageReports
