import UsageReports.Proofs.Data.DistinctKeys
import UsageReports.Store.Records

/-!
# Looking up records in memory

What is stored under a key after records arrived: the arrivals under that key merged onto what was
stored, one after the other. Records of other keys have no part in it.
-/

namespace UsageReports

namespace Record

/-- What is stored under a record's key once it arrived. -/
def storedOver (r : Record) (stored : Option Record) : Option Record := (r.onto stored).or stored

/-- Merging keeps the key. -/
theorem key_of_onto {r merged : Record} {stored : Option Record} (h : r.onto stored = some merged) :
    merged.key = r.key := by
  unfold onto at h
  split at h
  · rw [Option.some.inj h]
  · split at h
    · split at h
      · contradiction
      · split at h
        · rw [← Option.some.inj h]
          rfl
        · rw [← Option.some.inj h]
    · rw [← Option.some.inj h]
      rfl

end Record

namespace Records

/-- Whether each key has at most one record. -/
def Distinct (s : Records) : Prop := (s.entries.map Record.key).Nodup

theorem distinct_empty : Distinct empty := List.nodup_nil

theorem distinct_upsert {s : Records} (h : s.Distinct) (r : Record) : (s.upsert r).Distinct := by
  unfold upsert
  split
  · exact Keyed.nodup_put Record.key _ h
  · exact h

/-- An arrival under another key changes nothing. -/
theorem get?_upsert_of_ne (s : Records) {r : Record} {k : Record.Key} (h : r.key ≠ k) :
    (s.upsert r).get? k = s.get? k := by
  unfold upsert
  split
  · next merged hm =>
    apply Keyed.get?_put_of_ne
    rw [Record.key_of_onto hm]
    exact h
  · rfl

/-- An arrival is merged onto what its key had. -/
theorem get?_upsert_self (s : Records) (r : Record) :
    (s.upsert r).get? r.key = r.storedOver (s.get? r.key) := by
  unfold upsert Record.storedOver
  split
  · next merged hm =>
    rw [hm, Option.some_or, ← Record.key_of_onto hm]
    exact Keyed.get?_put_self Record.key merged s.entries
  · next hm => rw [hm, Option.none_or]

/-- Merge records one after the other. -/
def upsertAll (s : Records) (arrivals : List Record) : Records := arrivals.foldl upsert s

@[simp] theorem upsertAll_nil (s : Records) : s.upsertAll [] = s := rfl

@[simp] theorem upsertAll_cons (s : Records) (r : Record) (rest : List Record) :
    s.upsertAll (r :: rest) = (s.upsert r).upsertAll rest := rfl

theorem distinct_upsertAll {s : Records} (h : s.Distinct) (arrivals : List Record) :
    (s.upsertAll arrivals).Distinct := by
  induction arrivals generalizing s with
  | nil => exact h
  | cons r rest ih => exact ih (distinct_upsert h r)

/-- What is stored under a key depends on what was stored there and on the arrivals there. -/
theorem get?_upsertAll (s : Records) (arrivals : List Record) (k : Record.Key) :
    (s.upsertAll arrivals).get? k =
      (arrivals.filter (·.key = k)).foldl (fun stored r ↦ r.storedOver stored) (s.get? k) := by
  induction arrivals generalizing s with
  | nil => rfl
  | cons r rest ih =>
    rw [upsertAll_cons, ih, List.filter_cons]
    by_cases h : r.key = k
    · subst h
      rw [get?_upsert_self, if_pos (decide_eq_true rfl), List.foldl_cons]
    · rw [get?_upsert_of_ne s h, if_neg (by simpa using h)]

/-- Without arrivals under a key nothing changes there. -/
theorem get?_upsertAll_of_not_mem (s : Records) {arrivals : List Record} {k : Record.Key}
    (h : k ∉ arrivals.map Record.key) : (s.upsertAll arrivals).get? k = s.get? k := by
  have hnone : arrivals.filter (·.key = k) = [] := by
    apply List.filter_eq_nil_iff.mpr
    intro r hr he
    exact h (of_decide_eq_true he ▸ List.mem_map_of_mem hr)
  rw [get?_upsertAll, hnone, List.foldl_nil]

/-- A single arrival under a key is merged onto what was stored there. -/
theorem get?_upsertAll_of_mem (s : Records) {arrivals : List Record} {r : Record}
    (hd : (arrivals.map Record.key).Nodup) (hr : r ∈ arrivals) :
    (s.upsertAll arrivals).get? r.key = r.storedOver (s.get? r.key) := by
  induction arrivals generalizing s with
  | nil => exact absurd hr List.not_mem_nil
  | cons a rest ih =>
    obtain ⟨ha, hrest⟩ := List.nodup_cons.mp hd
    rw [upsertAll_cons]
    rcases List.mem_cons.mp hr with rfl | hr
    · rw [get?_upsertAll_of_not_mem _ ha, get?_upsert_self]
    · have hne : a.key ≠ r.key := fun he ↦ ha (he ▸ List.mem_map_of_mem hr)
      rw [ih _ hrest hr, get?_upsert_of_ne s hne]

/-- Records are listed by their provider and report type. -/
theorem mem_existing (s : Records) (provider reportType : String) (r : Record) :
    r ∈ s.existing provider reportType ↔
      r ∈ s.entries ∧ r.provider = provider ∧ r.reportType = reportType := by
  rw [existing, List.mem_mergeSort, List.mem_filter]
  simp only [Bool.and_eq_true, decide_eq_true_eq]

/-- Under distinct keys the record of a key is the one that is stored with it. -/
theorem get?_eq_some_iff {s : Records} (h : s.Distinct) (k : Record.Key) (r : Record) :
    s.get? k = some r ↔ r ∈ s.entries ∧ r.key = k :=
  Keyed.get?_eq_some_iff Record.key h k r

end Records
end UsageReports
