import UsageReports.Proofs.Data.DistinctKeys
import UsageReports.Store.TriggerStore

/-!
# The contents of a trigger store

A trigger store that does not fail holds triggers, one for each tenant, whether it keeps them in
memory or as the rows of a table. What its calls answer and leave is what they answer and leave for
those triggers. A trigger can be put in a table only if its row reads back as the trigger it was.
-/

namespace UsageReports

namespace Triggers

/-- Whether each tenant has at most one trigger. -/
def Distinct (s : Triggers) : Prop := (s.entries.map Trigger.tenant).Nodup

theorem Distinct.put {s : Triggers} (h : s.Distinct) (t : Trigger) : (s.put t).Distinct :=
  Keyed.nodup_put Trigger.tenant t h

theorem Distinct.erase {s : Triggers} (h : s.Distinct) (tenant : String) :
    (s.erase tenant).Distinct :=
  Keyed.nodup_erase Trigger.tenant tenant h

/-- What is found after a trigger was put. -/
theorem get?_put (s : Triggers) (t : Trigger) (tenant : String) :
    (s.put t).get? tenant = if t.tenant = tenant then some t else s.get? tenant := by
  split
  · next h =>
    subst h
    exact Keyed.get?_put_self Trigger.tenant t s.entries
  · next h => exact Keyed.get?_put_of_ne Trigger.tenant h s.entries

/-- What is found after a trigger was removed. -/
theorem get?_erase (s : Triggers) (gone tenant : String) :
    (s.erase gone).get? tenant = if gone = tenant then none else s.get? tenant := by
  split
  · next h =>
    subst h
    exact Keyed.get?_erase_self Trigger.tenant gone s.entries
  · next h => exact Keyed.get?_erase_of_ne Trigger.tenant h s.entries

/-- The listed triggers are the stored ones. -/
theorem get?_list {s : Triggers} (h : s.Distinct) (tenant : String) :
    Keyed.get? Trigger.tenant tenant s.list = s.get? tenant := by
  have hperm : s.list.Perm s.entries := List.mergeSort_perm _ _
  have hd : (s.list.map Trigger.tenant).Nodup := (hperm.map _).nodup_iff.mpr h
  ext t
  rw [get?, Keyed.get?_eq_some_iff _ hd, Keyed.get?_eq_some_iff _ h, hperm.mem_iff]

end Triggers

namespace TriggerRow

theorem tenant_ofTrigger (t : Trigger) : (ofTrigger t).tenant = t.tenant := rfl

/-- Whether the row of a trigger reads back as the trigger. -/
def Faithful (t : Trigger) : Prop := (ofTrigger t).decode = .ok t

end TriggerRow

namespace TriggerTable

/-- The table of some triggers. -/
def ofTriggers (s : Triggers) : TriggerTable := ⟨s.entries.map TriggerRow.ofTrigger⟩

/-- The row of a tenant is that of its trigger. -/
theorem get?_rows_ofTriggers (s : Triggers) (tenant : String) :
    Keyed.get? TriggerRow.tenant tenant (ofTriggers s).rows =
      (s.get? tenant).map TriggerRow.ofTrigger :=
  Keyed.get?_map TriggerRow.tenant_ofTrigger tenant s.entries

/-- The rows are sorted as the triggers are. -/
theorem sort_rows_ofTriggers (s : Triggers) :
    (ofTriggers s).rows.mergeSort (fun a b ↦ a.tenant ≤ b.tenant) =
      s.list.map TriggerRow.ofTrigger :=
  (List.map_mergeSort (f := TriggerRow.ofTrigger) fun _ _ _ _ ↦ rfl).symm

theorem put_ofTriggers (s : Triggers) (t : Trigger) :
    (ofTriggers s).put t = ofTriggers (s.put t) :=
  congrArg TriggerTable.mk (Keyed.put_map TriggerRow.tenant_ofTrigger t s.entries)

theorem erase_ofTriggers (s : Triggers) (tenant : String) :
    (ofTriggers s).erase tenant = ofTriggers (s.erase tenant) :=
  congrArg TriggerTable.mk (Keyed.erase_map TriggerRow.tenant_ofTrigger tenant s.entries)

theorem get_ofTriggers {s : Triggers} (h : ∀ t ∈ s.entries, TriggerRow.Faithful t)
    (tenant : String) : (ofTriggers s).get tenant = .ok (s.get? tenant) := by
  rw [get, get?_rows_ofTriggers]
  cases hfound : s.get? tenant with
  | none => rfl
  | some t =>
    have hread : (TriggerRow.ofTrigger t).decode = .ok t := h t (List.mem_of_find?_eq_some hfound)
    simp only [Option.map_some, hread]
    rfl

theorem list_ofTriggers {s : Triggers} (h : ∀ t ∈ s.entries, TriggerRow.Faithful t) :
    (ofTriggers s).list = .ok s.list := by
  rw [list, sort_rows_ofTriggers]
  exact Keyed.mapM_map_of_ok fun t ht ↦ h t (List.mem_mergeSort.mp ht)

end TriggerTable

namespace TriggerArchive

/-- Whether an archive can keep a trigger: memory any, a table one that reads back. -/
def CanKeep (a : TriggerArchive) (t : Trigger) : Prop :=
  match a with
  | memory _ => True
  | table _ => TriggerRow.Faithful t

/-- Whether an archive holds these triggers. -/
def Holds (a : TriggerArchive) (s : Triggers) : Prop :=
  match a with
  | memory triggers => triggers = s
  | table rows => rows = .ofTriggers s ∧ ∀ t ∈ s.entries, TriggerRow.Faithful t

variable {a : TriggerArchive} {s : Triggers}

theorem Holds.get (h : a.Holds s) (tenant : String) : a.get tenant = .ok (s.get? tenant) := by
  cases a with
  | memory triggers => rw [TriggerArchive.get, h]
  | table rows =>
    obtain ⟨rfl, hall⟩ := h
    exact TriggerTable.get_ofTriggers hall tenant

theorem Holds.list (h : a.Holds s) : a.list = .ok s.list := by
  cases a with
  | memory triggers => rw [TriggerArchive.list, h]
  | table rows =>
    obtain ⟨rfl, hall⟩ := h
    exact TriggerTable.list_ofTriggers hall

theorem Holds.contains (h : a.Holds s) (tenant : String) :
    a.contains tenant = (s.get? tenant).isSome := by
  cases a with
  | memory triggers => rw [TriggerArchive.contains, h]
  | table rows =>
    obtain ⟨rfl, -⟩ := h
    rw [TriggerArchive.contains, TriggerTable.get?_rows_ofTriggers, Option.isSome_map]

theorem Holds.put (h : a.Holds s) {t : Trigger} (ht : a.CanKeep t) : (a.put t).Holds (s.put t) := by
  cases a with
  | memory triggers => exact congrArg (Triggers.put · t) h
  | table rows =>
    obtain ⟨rfl, hall⟩ := h
    refine ⟨TriggerTable.put_ofTriggers s t, ?_⟩
    intro t' ht'
    rcases Keyed.mem_of_mem_put ht' with rfl | hm
    · exact ht
    · exact hall t' hm

theorem Holds.erase (h : a.Holds s) (tenant : String) :
    (a.erase tenant).Holds (s.erase tenant) := by
  cases a with
  | memory triggers => exact congrArg (Triggers.erase · tenant) h
  | table rows =>
    obtain ⟨rfl, hall⟩ := h
    exact ⟨TriggerTable.erase_ofTriggers s tenant, fun t' ht' ↦ hall t' (List.mem_filter.mp ht').1⟩

end TriggerArchive

namespace TriggerStore

/-- A store that holds these triggers and meets no fault. -/
structure Holds (s : TriggerStore) (ts : Triggers) : Prop where
  archive : s.archive.Holds ts
  faultless : ∀ met ∈ s.coming, met.2 = none

/-- A call that meets no fault is one to the archive. -/
theorem meet_of_faultless (op : StoreOperation) {coming : List (StoreOperation × Option StoreError)}
    (h : ∀ met ∈ coming, met.2 = none) :
    (meet op coming).1 = none ∧ ∀ met ∈ (meet op coming).2, met.2 = none := by
  induction coming with
  | nil => exact ⟨rfl, h⟩
  | cons met rest ih =>
    obtain ⟨hmet, hrest⟩ := List.forall_mem_cons.mp h
    obtain ⟨o, fault⟩ := met
    obtain ⟨hnone, hcoming⟩ := ih hrest
    unfold meet
    split
    · exact ⟨hmet, hrest⟩
    · exact ⟨hnone, List.forall_mem_cons.mpr ⟨hmet, hcoming⟩⟩

variable {s : TriggerStore} {ts : Triggers}

/-- A call to a store without faults answers and leaves what the archive does. -/
theorem Holds.call {α : Type} (h : s.Holds ts) (op : StoreOperation)
    {run : TriggerArchive → Except StoreError (α × TriggerArchive)} {answer : α}
    {archive : TriggerArchive} {ts' : Triggers} (hrun : run s.archive = .ok (answer, archive))
    (harchive : archive.Holds ts') :
    (s.call op run).1 = .ok answer ∧ (s.call op run).2.Holds ts' := by
  obtain ⟨hnone, hcoming⟩ := meet_of_faultless op h.faultless
  unfold TriggerStore.call
  generalize meet op s.coming = met at hnone hcoming
  obtain ⟨fault, coming⟩ := met
  subst hnone
  simp only [hrun]
  exact ⟨trivial, harchive, hcoming⟩

theorem Holds.get (h : s.Holds ts) (tenant : String) :
    (s.get tenant).1 = .ok (ts.get? tenant) ∧ (s.get tenant).2.Holds ts :=
  h.call .get (by rw [h.archive.get]; rfl) h.archive

/-- Looking for a trigger leaves the archive as it is. -/
theorem archive_get (s : TriggerStore) (tenant : String) :
    (s.get tenant).2.archive = s.archive := by
  unfold TriggerStore.get TriggerStore.call
  obtain ⟨_ | e, coming⟩ := meet .get s.coming
  · simp only
    cases s.archive.get tenant <;> rfl
  · rfl

theorem Holds.put (h : s.Holds ts) {t : Trigger} (ht : s.archive.CanKeep t) :
    (s.put t).1 = .ok () ∧ (s.put t).2.Holds (ts.put t) :=
  h.call .put rfl (h.archive.put ht)

theorem Holds.erase (h : s.Holds ts) (tenant : String) :
    (s.erase tenant).1 = .ok (ts.get? tenant).isSome ∧
      (s.erase tenant).2.Holds (ts.erase tenant) :=
  h.call .delete (by rw [h.archive.contains]) (h.archive.erase tenant)

theorem Holds.list (h : s.Holds ts) : s.list.1 = .ok ts.list ∧ s.list.2.Holds ts :=
  h.call .list (by rw [h.archive.list]; rfl) h.archive

end TriggerStore

end UsageReports
