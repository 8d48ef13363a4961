import UsageReports.Proofs.Calendar.InstantText
import UsageReports.Proofs.Data.Sorting
import UsageReports.Proofs.Store.DatabaseFile
import UsageReports.Proofs.Store.TriggerContents

/-!
# Triggers in a file

A store of triggers in a database file keeps what a store in memory does, also when it is closed and
opened again. But it keeps instants as text, and where the year of one does not have four digits the
text cannot be read: to get such a trigger fails, and to list all triggers fails for all tenants.
-/

namespace UsageReports

/-! ### Instants that cannot be read again -/

/-- The error about an instant whose text cannot be read. -/
def Instant.lost (i : Instant) : StoreError :=
  .corrupt s!"timestamp '{i.text}': no instant of RFC 3339"

namespace Trigger

/-- The instants of a trigger. -/
def instants (t : Trigger) : List Instant := t.start :: t.lastFired.toList

/-- Whether the instants of a trigger were read from text, with whatever offset. -/
def IsRead (t : Trigger) : Prop := ∀ i ∈ t.instants, ∃ s, Instant.ofText? s = some i

/-- The first instant of a trigger that is written with a year of other than four digits. -/
def illegible? (t : Trigger) : Option Instant := t.instants.find? (¬ ·.date.month.FourDigit)

/-- The trigger itself; an error where its text cannot be read. -/
def readBack (t : Trigger) : Except StoreError Trigger :=
  match t.illegible? with
  | none => .ok t
  | some i => .error i.lost

end Trigger

namespace TriggerRow

/-- The text of an instant reads back as far as its year has four digits. -/
theorem instant_text {i : Instant} (h : ∃ s, Instant.ofText? s = some i) :
    instant i.text = if i.date.month.FourDigit then .ok i else .error i.lost := by
  obtain ⟨s, hs⟩ := h
  split
  · next hyear => rw [instant, Instant.ofText?_text (Instant.regular_of_ofText? hs) hyear]
  · next hyear =>
    rw [instant, Instant.ofText?_text_eq_none hyear]
    rfl

/-- Reading the row of a trigger is reading its instants, the start first. -/
theorem decode_ofTrigger_eq (t : Trigger) :
    (ofTrigger t).decode = (do
      let start ← instant t.start.text
      let lastFired ← t.lastFired.mapM (instant ·.text)
      pure { t with start, lastFired }) := by
  obtain ⟨tenant, interval, start, lastFired⟩ := t
  have hinterval : Interval.ofText interval.text = .ok interval := by cases interval <;> rfl
  simp only [decode, ofTrigger, hinterval]
  generalize instant start.text = first
  cases lastFired with
  | none => rfl
  | some last =>
    simp only [Option.map_some, Option.mapM_some]
    generalize instant last.text = second
    cases first <;> cases second <;> rfl

/-- The row of a trigger reads back as far as its instants do. -/
theorem decode_ofTrigger {t : Trigger} (h : t.IsRead) : (ofTrigger t).decode = t.readBack := by
  obtain ⟨tenant, interval, start, lastFired⟩ := t
  obtain ⟨hstart, hlast⟩ := List.forall_mem_cons.mp h
  rw [decode_ofTrigger_eq, instant_text hstart, Trigger.readBack, Trigger.illegible?,
    Trigger.instants, List.find?_cons]
  by_cases hyear : start.date.month.FourDigit
  · simp only [hyear, if_true, not_true_eq_false, decide_false]
    cases lastFired with
    | none => rfl
    | some last =>
      have hread := instant_text (hlast last (Option.mem_toList.mpr rfl))
      by_cases hyearLast : last.date.month.FourDigit
      · rw [if_pos hyearLast] at hread
        simp [hread, hyearLast]
        rfl
      · rw [if_neg hyearLast] at hread
        simp [hread, hyearLast]
        rfl
  · simp only [hyear, if_false, not_false_eq_true, decide_true]
    rfl

end TriggerRow

/-! ### Calls to a store of triggers -/

/-- What is done with a store of triggers. -/
inductive TriggerCall where
  | put (t : Trigger)
  | get (tenant : String)
  | delete (tenant : String)
  | list
  | reopen

/-- What a call answers. -/
inductive TriggerAnswer where
  | done
  | found (t : Option Trigger)
  | deleted (existed : Bool)
  | listed (ts : List Trigger)
deriving DecidableEq

namespace TriggerCall

/-- What is kept of a tenant after a call, where `kept` was. -/
def keep (tenant : String) (kept : Option Trigger) : TriggerCall → Option Trigger
  | put t => if t.tenant = tenant then some t else kept
  | delete gone => if gone = tenant then none else kept
  | _ => kept

/-- The last trigger that was put for a tenant; none if it was deleted since. -/
def lastPut (tenant : String) (calls : List TriggerCall) : Option Trigger :=
  calls.foldl (keep tenant) none

end TriggerCall

namespace TriggerAnswer

/-- The triggers in an answer. -/
def triggers : TriggerAnswer → List Trigger
  | found t => t.toList
  | listed ts => ts
  | _ => []

/-- The answer itself; an error where it has triggers whose text cannot be read. -/
def readBack (a : TriggerAnswer) : Except StoreError TriggerAnswer :=
  match a.triggers.findSome? Trigger.illegible? with
  | none => .ok a
  | some i => .error i.lost

/-- An answer is read back if the triggers in it are. -/
theorem readBack_eq_ok {a : TriggerAnswer} (h : ∀ t ∈ a.triggers, t.illegible? = none) :
    a.readBack = .ok a := by
  rw [readBack, List.findSome?_eq_none_iff.mpr h]

end TriggerAnswer

namespace Triggers

/-- Make a call to a store in memory. -/
def call (s : Triggers) : TriggerCall → TriggerAnswer × Triggers
  | .put t => (.done, s.put t)
  | .get tenant => (.found (s.get? tenant), s)
  | .delete tenant => (.deleted (s.get? tenant).isSome, s.erase tenant)
  | .list => (.listed s.list, s)
  | .reopen => (.done, s)

/-- A store in memory after calls. -/
def after (s : Triggers) (calls : List TriggerCall) : Triggers :=
  calls.foldl (fun s c ↦ (s.call c).2) s

variable {s : Triggers}

theorem get?_call (s : Triggers) (c : TriggerCall) (tenant : String) :
    (s.call c).2.get? tenant = c.keep tenant (s.get? tenant) := by
  cases c with
  | put t => exact s.get?_put t tenant
  | delete gone => exact s.get?_erase gone tenant
  | get _ => rfl
  | list => rfl
  | reopen => rfl

theorem distinct_empty : empty.Distinct := List.nodup_nil

theorem Distinct.call (h : s.Distinct) (c : TriggerCall) : (s.call c).2.Distinct := by
  cases c with
  | put t => exact h.put t
  | delete gone => exact h.erase gone
  | get _ => exact h
  | list => exact h
  | reopen => exact h

/-- What holds of the triggers before a call and of one that it puts holds of those after it. -/
theorem forall_call {P : Trigger → Prop} {c : TriggerCall} (h : ∀ t ∈ s.entries, P t)
    (hput : ∀ t, c = .put t → P t) : ∀ t ∈ (s.call c).2.entries, P t := by
  cases c with
  | put t =>
    intro t' ht'
    rcases Keyed.mem_of_mem_put ht' with rfl | hold
    · exact hput t' rfl
    · exact h t' hold
  | delete gone => exact fun t ht ↦ h t (List.mem_filter.mp ht).1
  | get _ => exact h
  | list => exact h
  | reopen => exact h

theorem forall_after {P : Trigger → Prop} {calls : List TriggerCall} (h : ∀ t ∈ s.entries, P t)
    (hput : ∀ t, .put t ∈ calls → P t) : ∀ t ∈ (s.after calls).entries, P t := by
  induction calls generalizing s with
  | nil => exact h
  | cons c calls ih =>
    apply ih
    · exact forall_call h fun t hc ↦ hput t (hc ▸ List.mem_cons_self)
    · exact fun t ht ↦ hput t (List.mem_cons_of_mem _ ht)

/-- The triggers in an answer are stored ones. -/
theorem mem_entries_of_answered {c : TriggerCall} {t : Trigger}
    (h : t ∈ (s.call c).1.triggers) : t ∈ s.entries := by
  cases c with
  | get tenant => exact List.mem_of_find?_eq_some (Option.mem_toList.mp h)
  | list => exact List.mem_mergeSort.mp h
  | put _ => contradiction
  | delete _ => contradiction
  | reopen => contradiction

/-- Of each tenant there is the trigger that was put last. -/
theorem get?_after (s : Triggers) (calls : List TriggerCall) (tenant : String) :
    (s.after calls).get? tenant = calls.foldl (TriggerCall.keep tenant) (s.get? tenant) := by
  induction calls generalizing s with
  | nil => rfl
  | cons c calls ih =>
    rw [List.foldl_cons, ← get?_call]
    exact ih _

theorem Distinct.after (h : s.Distinct) (calls : List TriggerCall) : (s.after calls).Distinct := by
  induction calls generalizing s with
  | nil => exact h
  | cons c calls ih => exact ih (h.call c)

/-- Triggers are listed in the order of their tenants. -/
theorem Distinct.pairwise_list (h : s.Distinct) : s.list.Pairwise (·.tenant < ·.tenant) := by
  apply (pairwise_mergeSort_key_of_nodup Trigger.tenant h).imp
  intro a b hab
  exact Std.lt_of_le_of_ne hab.1 hab.2

theorem Distinct.mem_list_iff (h : s.Distinct) (t : Trigger) :
    t ∈ s.list ↔ s.get? t.tenant = some t := by
  rw [get?, Keyed.get?_eq_some_iff _ h, list, List.mem_mergeSort, and_iff_left rfl]

end Triggers

/-! ### Calls to a file -/

namespace TriggerTable

variable {s : Triggers}

/-- The rows of triggers read back as far as all their instants do. -/
theorem mapM_decode {ts : List Trigger} (h : ∀ t ∈ ts, t.IsRead) :
    (ts.map TriggerRow.ofTrigger).mapM TriggerRow.decode =
      match ts.findSome? Trigger.illegible? with
      | none => .ok ts
      | some i => .error i.lost := by
  induction ts with
  | nil => rfl
  | cons t ts ih =>
    obtain ⟨ht, hts⟩ := List.forall_mem_cons.mp h
    rw [List.map_cons, List.mapM_cons, TriggerRow.decode_ofTrigger ht, ih hts,
      List.findSome?_cons, Trigger.readBack]
    cases t.illegible? with
    | some i => rfl
    | none => cases ts.findSome? Trigger.illegible? <;> rfl

theorem get_eq_readBack (h : ∀ t ∈ s.entries, t.IsRead) (tenant : String) :
    ((ofTriggers s).get tenant).map .found = (TriggerAnswer.found (s.get? tenant)).readBack := by
  rw [get, get?_rows_ofTriggers]
  cases hfound : s.get? tenant with
  | none => rfl
  | some t =>
    have hdecode := TriggerRow.decode_ofTrigger (h t (List.mem_of_find?_eq_some hfound))
    simp only [Option.map_some, hdecode, Trigger.readBack, TriggerAnswer.readBack,
      TriggerAnswer.triggers, Option.toList_some, List.findSome?_singleton]
    cases t.illegible? <;> rfl

theorem list_eq_readBack (h : ∀ t ∈ s.entries, t.IsRead) :
    (ofTriggers s).list.map .listed = (TriggerAnswer.listed s.list).readBack := by
  have hlist : ∀ t ∈ s.list, t.IsRead := fun t ht ↦ h t (List.mem_mergeSort.mp ht)
  rw [list, sort_rows_ofTriggers, mapM_decode hlist]
  simp only [TriggerAnswer.readBack, TriggerAnswer.triggers]
  cases s.list.findSome? Trigger.illegible? <;> rfl

end TriggerTable

namespace DatabaseFile

/-- A file with these rows of triggers. -/
def withTriggers (f : DatabaseFile) (triggers : TriggerTable) : DatabaseFile :=
  { f with content := { f.content with triggers } }

/-- Make a call to the triggers of a database file. -/
def callTriggers (f : DatabaseFile) : TriggerCall → Except StoreError TriggerAnswer × DatabaseFile
  | .put t => (.ok .done, f.withTriggers (f.content.triggers.put t))
  | .get tenant => ((f.content.triggers.get tenant).map .found, f)
  | .delete tenant =>
    (.ok (.deleted (TriggerArchive.contains (.table f.content.triggers) tenant)),
      f.withTriggers (f.content.triggers.erase tenant))
  | .list => (f.content.triggers.list.map .listed, f)
  | .reopen =>
    match f.reopen with
    | .ok f => (.ok .done, f)
    | .error e => (.error e, f)

/-- A database file after calls to its triggers. -/
def afterTriggerCalls (f : DatabaseFile) (calls : List TriggerCall) : DatabaseFile :=
  calls.foldl (fun f c ↦ (f.callTriggers c).2) f

variable {f : DatabaseFile} {s : Triggers}

/-- A call to a file with the triggers that memory has answers what memory does, as far as that
reads back. -/
theorem callTriggers_answer {c : TriggerCall} (h : f.content.triggers = .ofTriggers s)
    (hread : ∀ t ∈ s.entries, t.IsRead) (hlasts : c = .reopen → f.Lasts) :
    (f.callTriggers c).1 = (s.call c).1.readBack := by
  cases c with
  | put t => rfl
  | get tenant =>
    rw [callTriggers, h]
    exact TriggerTable.get_eq_readBack hread tenant
  | delete tenant =>
    rw [callTriggers, h, TriggerArchive.contains, TriggerTable.get?_rows_ofTriggers,
      Option.isSome_map]
    rfl
  | list =>
    rw [callTriggers, h]
    exact TriggerTable.list_eq_readBack hread
  | reopen =>
    simp only [callTriggers, (hlasts rfl).reopen]
    rfl

/-- A call leaves a file with the triggers that memory has. -/
theorem callTriggers_file {c : TriggerCall} (h : f.content.triggers = .ofTriggers s)
    (hlasts : c = .reopen → f.Lasts) :
    (f.callTriggers c).2.content.triggers = .ofTriggers (s.call c).2 ∧
      (f.Lasts → (f.callTriggers c).2.Lasts) := by
  cases c with
  | put t =>
    refine ⟨?_, id⟩
    exact (congrArg (TriggerTable.put · t) h).trans (TriggerTable.put_ofTriggers s t)
  | delete tenant =>
    refine ⟨?_, id⟩
    exact (congrArg (TriggerTable.erase · tenant) h).trans (TriggerTable.erase_ofTriggers s tenant)
  | get _ => exact ⟨h, id⟩
  | list => exact ⟨h, id⟩
  | reopen =>
    simp only [callTriggers, (hlasts rfl).reopen]
    exact ⟨h, Lasts.keep⟩

/-- Calls leave a file with the triggers that memory has. -/
theorem afterTriggerCalls_file {calls : List TriggerCall} (h : f.content.triggers = .ofTriggers s)
    (hlasts : .reopen ∈ calls → f.Lasts) :
    (f.afterTriggerCalls calls).content.triggers = .ofTriggers (s.after calls) ∧
      (f.Lasts → (f.afterTriggerCalls calls).Lasts) := by
  induction calls generalizing f s with
  | nil => exact ⟨h, id⟩
  | cons c calls ih =>
    obtain ⟨hrows, hkeep⟩ := callTriggers_file h fun hc ↦ hlasts (hc ▸ List.mem_cons_self)
    obtain ⟨hrest, hkeepRest⟩ := ih hrows fun hc ↦ hkeep (hlasts (List.mem_cons_of_mem _ hc))
    exact ⟨hrest, hkeepRest ∘ hkeep⟩

/-- A store of triggers in a file that was opened without triggers answers each call as a store in
memory does after the same calls, save that an answer with a trigger that has an instant of a year
without four digits is an error. Memory keeps of each tenant the trigger that was put last, and
lists the triggers by their tenants. -/
theorem trigger_answers_read_back {disk disk' : Disk} {path : String} {content : Database}
    {before : List TriggerCall} {c : TriggerCall}
    (hopen : disk.openDatabase path = (.ok content, disk')) (hempty : content.triggers = .empty)
    (hpath : .reopen ∈ before ++ [c] → Disk.isFleeting path = false)
    (hread : ∀ t, .put t ∈ before → t.IsRead) :
    let f := DatabaseFile.afterTriggerCalls ⟨disk', path, content⟩ before
    let memory := Triggers.empty.after before
    (f.callTriggers c).1 = (memory.call c).1.readBack ∧
      ((∀ t, .put t ∈ before → t.illegible? = none) →
        (f.callTriggers c).1 = .ok (memory.call c).1) ∧
      (∀ tenant, memory.get? tenant = TriggerCall.lastPut tenant before) ∧
      memory.list.Pairwise (·.tenant < ·.tenant) ∧
      ∀ t, t ∈ memory.list ↔ TriggerCall.lastPut t.tenant before = some t := by
  intro f memory
  have hlasts (hc : .reopen ∈ before ++ [c]) : DatabaseFile.Lasts ⟨disk', path, content⟩ :=
    lasts_of_openDatabase (hpath hc) hopen
  have hnone {P : Trigger → Prop} : ∀ t ∈ Triggers.empty.entries, P t :=
    fun t ht ↦ absurd ht List.not_mem_nil
  obtain ⟨hrows, hkeep⟩ := afterTriggerCalls_file (f := ⟨disk', path, content⟩)
    (s := .empty) hempty fun hc ↦ hlasts (List.mem_append_left _ hc)
  have hanswer : (f.callTriggers c).1 = (memory.call c).1.readBack := by
    refine callTriggers_answer hrows (Triggers.forall_after hnone hread) ?_
    rintro rfl
    exact hkeep (hlasts (List.mem_append_right _ (List.mem_singleton_self _)))
  have hdistinct : memory.Distinct := Triggers.distinct_empty.after before
  have hlast (tenant : String) : memory.get? tenant = TriggerCall.lastPut tenant before :=
    Triggers.empty.get?_after before tenant
  refine ⟨hanswer, ?_, hlast, hdistinct.pairwise_list, ?_⟩
  · intro hlegible
    rw [hanswer]
    apply TriggerAnswer.readBack_eq_ok
    intro t ht
    exact Triggers.forall_after hnone hlegible t (Triggers.mem_entries_of_answered ht)
  · intro t
    rw [hdistinct.mem_list_iff, hlast]

section Written

private def made : Disk := ⟨[(["data"], .folder), (["data", "h.db"], .database {})]⟩

private theorem openDatabase_made : Disk.openDatabase ⟨[]⟩ "data/h.db" = (.ok {}, made) := rfl

/-- A trigger that fired last in the leap second before the March of a leap year. -/
private def leaping : Trigger :=
  { tenant := "b", interval := .monthly, start := .onDay 19723 ⟨0, 0⟩
    lastFired := some (.onDay 19782 ⟨86399, 1250000000⟩) }

/-- A trigger from the last hour of the year 9999 on, seen an hour west of universal time. -/
private def late : Trigger :=
  { tenant := "a", interval := .daily, start := .onDay 2932897 ⟨3599, 0⟩ }

private theorem isRead_leaping : leaping.IsRead := by
  intro i hi
  rcases List.mem_cons.mp hi with rfl | hi
  · exact ⟨"2024-01-01T05:30:00+05:30", by decide +kernel⟩
  · rw [List.mem_singleton.mp hi]
    exact ⟨"2024-02-29t23:59:60.25Z", by decide +kernel⟩

private theorem isRead_late : late.IsRead := by
  intro i hi
  rw [List.mem_singleton.mp hi]
  exact ⟨"9999-12-31T23:59:59-01:00", by decide +kernel⟩

/-- One of two triggers is read back from a file that was closed between. -/
theorem trigger_answers_read_back_reopened :
    let before : List TriggerCall := [.put late, .put leaping, .reopen, .delete "a"]
    Disk.openDatabase ⟨[]⟩ "data/h.db" = (.ok {}, made) ∧ late.IsRead ∧ leaping.IsRead ∧
      ((DatabaseFile.afterTriggerCalls ⟨made, "data/h.db", {}⟩ before).callTriggers .list).1 =
        .ok (.listed [leaping]) := by
  intro before
  have hread : ∀ t, .put t ∈ before → t.IsRead := by
    intro t ht
    simp only [before, List.mem_cons, TriggerCall.put.injEq, List.not_mem_nil, reduceCtorEq,
      or_false] at ht
    rcases ht with rfl | rfl
    · exact isRead_late
    · exact isRead_leaping
  have hanswer :=
    trigger_answers_read_back (c := .list) openDatabase_made rfl (fun _ ↦ by decide) hread
  refine ⟨openDatabase_made, isRead_late, isRead_leaping, hanswer.1.trans ?_⟩
  decide +kernel

/-- A trigger whose start was read from text is put, and cannot be got again. -/
theorem get_after_put_fails :
    let before : List TriggerCall := [.put late]
    Disk.openDatabase ⟨[]⟩ "data/h.db" = (.ok {}, made) ∧ late.IsRead ∧
      ((Triggers.empty.after before).call (.get "a")).1 = .found (some late) ∧
      ((DatabaseFile.afterTriggerCalls ⟨made, "data/h.db", {}⟩ before).callTriggers (.get "a")).1 =
        .error (.corrupt "timestamp '+10000-01-01T00:59:59+00:00': no instant of RFC 3339") := by
  exact ⟨openDatabase_made, isRead_late, by decide +kernel, by decide +kernel⟩

end Written

end DatabaseFile
end UsageReports
