import UsageReports.Proofs.Calendar.MonthText
import UsageReports.Proofs.Store.Listing
import UsageReports.Store.RecordTable

/-!
# The contents of a table of records

A table holds records as rows of text. As long as their months have years of four digits and their
payloads read back as they were, the rows stand for the records: the table finds, merges and lists
what a store in memory does.
-/

namespace UsageReports

/-- Whether a record can be kept as a row: the years of such months have four digits, its payload
reads back from its text, and its count fits 32 bits. -/
structure Record.Storable (r : Record) : Prop where
  month : r.month.FourDigit
  payload : ∀ p ∈ r.payload, Json.ofText? p.text = some p
  attempts : r.attempts ≤ maxUInt32

theorem Record.nextAttempt_le (n : Nat) : nextAttempt n ≤ maxUInt32 := Nat.min_le_right _ _

/-- What is stored when a record arrives can be kept as the record can. -/
theorem Record.Storable.onto {r merged : Record} {stored : Option Record} (h : r.Storable)
    (hmerged : r.onto stored = some merged) : merged.Storable := by
  unfold Record.onto at hmerged
  split at hmerged
  · rwa [← Option.some.inj hmerged]
  · split at hmerged
    · split at hmerged
      · contradiction
      · split at hmerged
        · rw [← Option.some.inj hmerged]
          exact ⟨h.month, h.payload, nextAttempt_le _⟩
        · rwa [← Option.some.inj hmerged]
    · rw [← Option.some.inj hmerged]
      exact ⟨h.month, h.payload, Nat.zero_le _⟩

namespace RecordRow

variable {r : Record}

/-- The row of a record reads back as the record. -/
theorem decode_ofRecord (h : r.Storable) : (ofRecord r).decode = .ok r := by
  have hmonth : Month.ofText (ofRecord r).month = .ok r.month := h.month.ofText_text
  have hattempts : 0 ≤ (ofRecord r).attempts ∧ (ofRecord r).attempts ≤ maxUInt32 :=
    ⟨Int.natCast_nonneg _, Int.ofNat_le.mpr h.attempts⟩
  cases hp : r.payload with
  | none =>
    have hpayload : (ofRecord r).payload = none := congrArg (Option.map Json.text) hp
    simp only [decode, hmonth, if_pos hattempts, hpayload]
    change Except.ok { r with payload := none } = Except.ok r
    rw [← hp]
  | some p =>
    have hpayload : (ofRecord r).payload = some p.text := congrArg (Option.map Json.text) hp
    simp only [decode, hmonth, if_pos hattempts, hpayload, h.payload p hp]
    change Except.ok { r with payload := some p } = Except.ok r
    rw [← hp]

/-- Rows have the same key when their records do. -/
theorem key_ofRecord_iff {a b : Record} (ha : a.Storable) (hb : b.Storable) :
    (ofRecord a).key = (ofRecord b).key ↔ a.key = b.key := by
  simp only [key, ofRecord, Record.key, Prod.mk.injEq, Record.Key.mk.injEq,
    ha.month.text_inj hb.month]

end RecordRow

namespace RecordTable

/-- Whether a table stands for these records. -/
structure Holds (t : RecordTable) (s : Records) : Prop where
  rows : t.rows = s.entries.map RecordRow.ofRecord
  storable : ∀ r ∈ s.entries, r.Storable

theorem holds_empty : empty.Holds .empty := ⟨rfl, fun _ h ↦ absurd h List.not_mem_nil⟩

variable {t : RecordTable} {s : Records} {r : Record}

theorem Holds.find (h : t.Holds s) (hr : r.Storable) : t.find r = .ok (s.get? r.key) := by
  have hfound : Keyed.get? RecordRow.key (RecordRow.ofRecord r).key t.rows =
      (s.get? r.key).map RecordRow.ofRecord := by
    rw [h.rows]
    exact Keyed.get?_map_of_iff fun b hb ↦ RecordRow.key_ofRecord_iff (h.storable b hb) hr
  rw [RecordTable.find, hfound]
  cases hstored : s.get? r.key with
  | none => rfl
  | some old =>
    have hold := RecordRow.decode_ofRecord (h.storable old (List.mem_of_find?_eq_some hstored))
    simp only [Option.map_some, hold]
    rfl

/-- What a table becomes when a record arrives onto a row that can be read. -/
theorem upsert_of_find {stored : Option Record} (h : t.find r = .ok stored) :
    t.upsert r = .ok (match r.onto stored with
      | some merged => t.putRow (.ofRecord merged)
      | none => t) := by
  have hstep : t.upsert r = match r.onto stored with
      | some merged => .ok (t.putRow (.ofRecord merged))
      | none => .ok t := by
    rw [RecordTable.upsert, h]
    rfl
  rw [hstep]
  cases r.onto stored <;> rfl

/-- A record that can be kept is merged onto what stands for its key. -/
theorem Holds.upsert (h : t.Holds s) (hr : r.Storable) :
    ∃ t', t.upsert r = .ok t' ∧ t'.Holds (s.upsert r) := by
  refine ⟨_, upsert_of_find (h.find hr), ?_⟩
  cases hmerged : r.onto (s.get? r.key) with
  | none =>
    rwa [Records.upsert, hmerged]
  | some merged =>
    have hkeep := hr.onto hmerged
    refine ⟨?_, ?_⟩
    · simp only [Records.upsert, hmerged, putRow, h.rows]
      exact Keyed.put_map_of_iff fun b hb ↦ RecordRow.key_ofRecord_iff (h.storable b hb) hkeep
    · intro b hb
      simp only [Records.upsert, hmerged] at hb
      rcases Keyed.mem_of_mem_put hb with rfl | hb
      · exact hkeep
      · exact h.storable b hb

/-- A table lists the records that it stands for. -/
theorem Holds.existing (h : t.Holds s) (provider reportType : String) :
    t.existing provider reportType = .ok (s.existing provider reportType) := by
  have hsort : ((s.entries.map RecordRow.ofRecord).filter fun row ↦
        row.provider = provider && row.reportType = reportType).mergeSort
          (fun a b ↦ a.month ≤ b.month) =
      (s.existing provider reportType).map RecordRow.ofRecord := by
    rw [List.filter_map]
    refine (List.map_mergeSort ?_).symm
    intro a ha b hb
    have hmonths := (h.storable a (List.mem_filter.mp ha).1).month.text_le_iff
      (h.storable b (List.mem_filter.mp hb).1).month
    exact decide_eq_decide.mpr hmonths.symm
  rw [RecordTable.existing, h.rows, hsort]
  apply Keyed.mapM_map_of_ok
  intro r hr
  exact RecordRow.decode_ofRecord (h.storable r ((s.mem_existing _ _ r).mp hr).1)

theorem Holds.count (h : t.Holds s) : t.count = s.count := by
  rw [RecordTable.count, h.rows, List.length_map, Records.count]

end RecordTable
end UsageReports
