import UsageReports.Proofs.Store.Lookup
import UsageReports.Store.RecordStore

/-!
# Writing to memory

Records written to a store in memory are merged in their order. A write that fails merges nothing
and keeps no later write from being done, so that what a store holds after writing are the merged
records of some of those it was to write, and of all of them where no write failed.
-/

namespace UsageReports.RecordStore

/-- A store in memory that holds these records, and from which some providers cannot be read. -/
structure Holds (s : RecordStore) (faults : List (String × StoreError)) (records : Records) :
    Prop where
  archive : s.archive = .memory records
  readFaults : s.readFaults = faults

/-- The records of a store in memory. -/
def memory (s : RecordStore) : Records :=
  match s.archive with
  | .memory records => records
  | .table _ => .empty

theorem Holds.memory_eq {s : RecordStore} {faults : List (String × StoreError)} {records : Records}
    (h : s.Holds faults records) : s.memory = records := by
  rw [memory, h.archive]

/-- The record that was written, where a write went well. -/
def written (r : Record) : Except StoreError Unit → List Record
  | .ok () => [r]
  | .error _ => []

variable {s : RecordStore} {faults : List (String × StoreError)} {records : Records}

theorem holds_upsert (h : s.Holds faults records) (r : Record) :
    (s.upsert r).2.Holds faults (records.upsertAll (written r (s.upsert r).1)) := by
  unfold upsert
  simp only
  split
  · exact ⟨h.archive, h.readFaults⟩
  · have hup : s.archive.upsert r = .ok (.memory (records.upsert r)) := by rw [h.archive]; rfl
    simp only [hup]
    exact ⟨rfl, h.readFaults⟩

theorem holds_persist (h : s.Holds faults records) (r : Record) (retries : Nat) :
    (s.persist r retries).2.Holds faults
      (records.upsertAll (written r (s.persist r retries).1)) := by
  induction retries generalizing s with
  | zero => exact holds_upsert h r
  | succ retries ih =>
    have hup := holds_upsert h r
    rw [persist]
    split
    · next hs =>
      rw [hs] at hup
      exact hup
    · next hs =>
      rw [hs] at hup
      split
      · exact ih hup
      · exact hup

/-- What a store in memory holds after it was to write some records. -/
theorem holds_persistAll (h : s.Holds faults records) (retries : Nat) (arrivals : List Record) :
    ∃ merged, merged.Sublist arrivals ∧
      ((s.persistAll retries arrivals).1.failures = 0 → merged = arrivals) ∧
      (s.persistAll retries arrivals).2.Holds faults (records.upsertAll merged) := by
  induction arrivals generalizing s records with
  | nil => exact ⟨[], List.Sublist.refl _, fun _ ↦ rfl, h⟩
  | cons r rest ih =>
    have hr := holds_persist h r retries
    rw [persistAll]
    generalize s.persist r retries = p at hr
    obtain ⟨result, s'⟩ := p
    obtain ⟨merged, hsub, hall, hrest⟩ := ih hr
    cases result with
    | ok u =>
      refine ⟨r :: merged, hsub.cons_cons r, ?_, hrest⟩
      intro hnone
      rw [hall hnone]
    | error e =>
      refine ⟨merged, hsub.cons r, ?_, hrest⟩
      intro hnone
      exact absurd hnone (Nat.succ_ne_zero _)

private theorem persist_eq (h : s.Holds faults records) (hw : s.writeFaults = []) (r : Record)
    (retries : Nat) :
    s.persist r retries = (.ok (), { s with
      archive := .memory (records.upsert r), writeFaults := [], writes := s.writes + 1 }) := by
  have hup : s.upsert r = (.ok (), { s with
      archive := .memory (records.upsert r), writeFaults := [], writes := s.writes + 1 }) := by
    simp only [upsert, hw, meet, h.archive]
    rfl
  cases retries with
  | zero => exact hup
  | succ retries => rw [persist, hup]

/-- Without faults every write goes well. -/
theorem failures_persistAll (h : s.Holds faults records) (hw : s.writeFaults = [])
    (retries : Nat) (arrivals : List Record) :
    (s.persistAll retries arrivals).1.failures = 0 ∧
      (s.persistAll retries arrivals).2.writeFaults = [] := by
  induction arrivals generalizing s records with
  | nil => exact ⟨rfl, hw⟩
  | cons r rest ih =>
    have hr := holds_persist h r retries
    rw [persistAll]
    rw [persist_eq h hw r retries] at hr ⊢
    exact ih hr rfl

/-- The records of a provider are read type by type. -/
theorem existingOf_eq (h : s.Holds faults records) {provider : String}
    (hread : faults.lookup provider = none) (types : List String) :
    s.existingOf provider types = .ok (types.flatMap (records.existing provider)) := by
  induction types with
  | nil => rfl
  | cons t ts ih =>
    have ht : s.existing provider t = .ok (records.existing provider t) := by
      rw [existing, h.readFaults, hread, h.archive]
      rfl
    rw [existingOf, ht, ih]
    rfl

end UsageReports.RecordStore
