import UsageReports.Proofs.Store.DatabaseFile
import UsageReports.Proofs.Store.RecordContents

/-!
# Records in a file

A store of records in a database file, closed and opened again at any time, lists what a store in
memory does after the same arrivals.
-/

namespace UsageReports

/-- What is done with a store of records in a file. -/
inductive RecordCall where
  | upsert (r : Record)
  | reopen

namespace RecordCall

/-- The record that arrives with a call. -/
def arrival? : RecordCall → Option Record
  | upsert r => some r
  | reopen => none

end RecordCall

namespace DatabaseFile

/-- Make a call to the records of a database file. -/
def callRecords (f : DatabaseFile) : RecordCall → Except StoreError DatabaseFile
  | .upsert r => (f.content.records.upsert r).map fun records ↦
    { f with content := { f.content with records } }
  | .reopen => f.reopen

variable {f : DatabaseFile} {s : Records}

/-- A call leaves the file with the records that memory has. -/
theorem callRecords_holds {c : RecordCall} (h : f.content.records.Holds s)
    (hlasts : c = .reopen → f.Lasts) (hstorable : ∀ r, c = .upsert r → r.Storable) :
    ∃ f', f.callRecords c = .ok f' ∧
      f'.content.records.Holds (s.upsertAll c.arrival?.toList) ∧ (f.Lasts → f'.Lasts) := by
  cases c with
  | upsert r =>
    obtain ⟨records, hupsert, hrecords⟩ := h.upsert (hstorable r rfl)
    refine ⟨{ f with content := { f.content with records } }, ?_, hrecords, id⟩
    rw [callRecords, hupsert]
    rfl
  | reopen => exact ⟨_, (hlasts rfl).reopen, h, Lasts.keep⟩

/-- Calls leave the file with the records that memory has. -/
theorem foldlM_callRecords_holds {calls : List RecordCall} (h : f.content.records.Holds s)
    (hlasts : .reopen ∈ calls → f.Lasts) (hstorable : ∀ r, .upsert r ∈ calls → r.Storable) :
    ∃ f', calls.foldlM callRecords f = .ok f' ∧
      f'.content.records.Holds (s.upsertAll (calls.filterMap RecordCall.arrival?)) := by
  induction calls generalizing f s with
  | nil => exact ⟨f, rfl, h⟩
  | cons c calls ih =>
    obtain ⟨f₁, hcall, hholds, hkeep⟩ := callRecords_holds h
      (fun hc ↦ hlasts (hc ▸ List.mem_cons_self))
      (fun r hc ↦ hstorable r (hc ▸ List.mem_cons_self))
    obtain ⟨f₂, hrun, hrest⟩ := ih hholds
      (fun hc ↦ hkeep (hlasts (List.mem_cons_of_mem _ hc)))
      (fun r hc ↦ hstorable r (List.mem_cons_of_mem _ hc))
    refine ⟨f₂, ?_, ?_⟩
    · rw [List.foldlM_cons, hcall]
      exact hrun
    · cases c <;> exact hrest

/-- After any calls to a store of records in a file that was opened without records, no call has
failed, and the store lists and counts what a store in memory does after the same arrivals. A
database that lasts only while it is open agrees as long as it is not closed. -/
theorem records_agree_with_memory {disk disk' : Disk} {path : String} {content : Database}
    {calls : List RecordCall} (hopen : disk.openDatabase path = (.ok content, disk'))
    (hempty : content.records = .empty)
    (hpath : .reopen ∈ calls → Disk.isFleeting path = false)
    (hstorable : ∀ r, .upsert r ∈ calls → r.Storable) :
    ∃ f, calls.foldlM callRecords ⟨disk', path, content⟩ = .ok f ∧
      let memory := Records.empty.upsertAll (calls.filterMap RecordCall.arrival?)
      (∀ p t, f.content.records.existing p t = .ok (memory.existing p t)) ∧
        f.content.records.count = memory.count := by
  have hholds : content.records.Holds .empty := hempty ▸ RecordTable.holds_empty
  obtain ⟨f, hrun, hf⟩ := foldlM_callRecords_holds
    (f := ⟨disk', path, content⟩) hholds
    (fun hc ↦ lasts_of_openDatabase (hpath hc) hopen) hstorable
  exact ⟨f, hrun, hf.existing, hf.count⟩

section Reopened

/-- A month of the first year that a file can hold, with null for its payload. -/
private def nothing : Record := .success "p" "DR" (.january 0) .null

/-- A month of the last such year, which could not be fetched. -/
private def missing : Record := .placeholder "p" "DR" (Month.january 10000).pred "gone"

/-- A file is made with the folder it lies in, and opened again between arrivals. -/
theorem records_agree_with_memory_reopened :
    let made : Disk := ⟨[(["data"], .folder), (["data", "h.db"], .database {})]⟩
    let calls : List RecordCall :=
      [.upsert nothing, .reopen, .upsert missing, .upsert missing, .reopen]
    Disk.openDatabase ⟨[]⟩ "data/h.db" = (.ok {}, made) ∧
      ∃ f, calls.foldlM callRecords ⟨made, "data/h.db", {}⟩ = .ok f ∧
        f.content.records.existing "p" "DR" = .ok [nothing, { missing with attempts := 2 }] ∧
        f.content.records.count = 2 := by
  intro made calls
  have hopen : Disk.openDatabase ⟨[]⟩ "data/h.db" = (.ok {}, made) := rfl
  have hnothing : nothing.Storable :=
    ⟨by decide, fun p hp ↦ Option.some.inj hp ▸ rfl, by decide⟩
  have hmissing : missing.Storable :=
    ⟨by decide, fun p hp ↦ absurd hp (Option.not_mem_none p), by decide⟩
  have hstorable : ∀ r, .upsert r ∈ calls → r.Storable := by
    intro r hr
    simp only [calls, List.mem_cons, RecordCall.upsert.injEq, List.not_mem_nil, reduceCtorEq,
      or_false, false_or] at hr
    rcases hr with rfl | rfl | rfl
    · exact hnothing
    · exact hmissing
    · exact hmissing
  obtain ⟨f, hrun, hexisting, hcount⟩ :=
    records_agree_with_memory hopen rfl (fun _ ↦ by decide) hstorable
  have hsorted : [nothing, { missing with attempts := 2 }].Pairwise
      fun a b ↦ decide (a.month ≤ b.month) :=
    List.pairwise_pair.mpr (by decide)
  have hmemory : (Records.empty.upsertAll (calls.filterMap RecordCall.arrival?)).existing "p" "DR" =
      [nothing, { missing with attempts := 2 }] := List.mergeSort_of_pairwise hsorted
  exact ⟨hopen, f, hrun, (hexisting "p" "DR").trans (congrArg Except.ok hmemory), hcount⟩

end Reopened

end DatabaseFile

end UsageReports
