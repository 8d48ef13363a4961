import UsageReports.Proofs.Store.RecordContents
import UsageReports.Store.RecordStore

/-!
# The row of a record

A table of records may hold rows that others have written. Storing a record reads only the row of
its own key, and fails only if the payload there is no JSON text; it changes no other row, whatever
is in it.
-/

namespace UsageReports

namespace RecordRow

/-- Whether a row has a payload that is no JSON text. -/
def Malformed (row : RecordRow) : Prop := ∃ text ∈ row.payload, Json.ofText? text = none

variable {row : RecordRow} {m : Month}

theorem decode_of_malformed (hmonth : Month.ofText row.month = .ok m) (h : row.Malformed) :
    ∃ e, row.decode = .error e := by
  obtain ⟨text, htext, hnone⟩ := h
  rw [decode, hmonth, Option.mem_def.mp htext]
  simp only [hnone]
  exact ⟨_, rfl⟩

theorem decode_of_not_malformed (hmonth : Month.ofText row.month = .ok m) (h : ¬row.Malformed) :
    ∃ r, row.decode = .ok r := by
  rw [decode, hmonth]
  cases hpayload : row.payload with
  | none => exact ⟨_, rfl⟩
  | some text =>
    cases hjson : Json.ofText? text with
    | none => exact absurd ⟨text, hpayload, hjson⟩ h
    | some j =>
      simp only [hjson]
      exact ⟨_, rfl⟩

end RecordRow

namespace RecordTable

/-- What a table has stored under the key of a row. -/
inductive Stored (t : RecordTable) (key : String × String × String) : Option Record → Prop
  | nothing (absent : ∀ row ∈ t.rows, row.key ≠ key) : Stored t key none
  | record {row : RecordRow} {r : Record} (mem : row ∈ t.rows) (own : row.key = key)
      (decoded : row.decode = .ok r) : Stored t key (some r)

variable {t : RecordTable} {r : Record}

/-- The row under the key of a record that can be kept is for the month of the record. -/
theorem ofText_month_of_key {row : RecordRow} (hr : r.Storable)
    (hkey : row.key = (RecordRow.ofRecord r).key) : Month.ofText row.month = .ok r.month := by
  have hmonth : row.month = r.month.text := congrArg (·.2.2) hkey
  rw [hmonth]
  exact hr.month.ofText_text

section Find

variable (hkeys : (t.rows.map RecordRow.key).Nodup) (hr : r.Storable)
include hkeys hr

/-- What is stored for a record cannot be read if its row has a malformed payload. -/
theorem find_of_malformed {row : RecordRow} (hrow : row ∈ t.rows)
    (hkey : row.key = (RecordRow.ofRecord r).key) (hbad : row.Malformed) :
    ∃ e, t.find r = .error e := by
  obtain ⟨e, he⟩ := RecordRow.decode_of_malformed (ofText_month_of_key hr hkey) hbad
  rw [find, (Keyed.get?_eq_some_iff _ hkeys _ _).mpr ⟨hrow, hkey⟩]
  simp only [he]
  exact ⟨e, rfl⟩

/-- Otherwise it is found. -/
theorem find_of_not_malformed
    (h : ∀ row ∈ t.rows, row.key = (RecordRow.ofRecord r).key → ¬row.Malformed) :
    ∃ stored, t.find r = .ok stored ∧ t.Stored (RecordRow.ofRecord r).key stored := by
  rw [find]
  cases hget : Keyed.get? RecordRow.key (RecordRow.ofRecord r).key t.rows with
  | none =>
    refine ⟨none, rfl, .nothing ?_⟩
    intro row hrow
    simpa using List.find?_eq_none.mp hget row hrow
  | some row =>
    obtain ⟨hrow, hkey⟩ := (Keyed.get?_eq_some_iff _ hkeys _ _).mp hget
    obtain ⟨old, hold⟩ :=
      RecordRow.decode_of_not_malformed (ofText_month_of_key hr hkey) (h row hrow hkey)
    simp only [hold]
    exact ⟨some old, rfl, .record hrow hkey hold⟩

end Find

/-- Nothing is stored where what is stored cannot be read. -/
theorem upsert_of_find_error {e : StoreError} (h : t.find r = .error e) :
    t.upsert r = .error e := by
  rw [upsert, h]
  rfl

/-- What a record becomes is put into the row of the record. -/
theorem key_ofRecord_onto {stored : Option Record} {merged : Record}
    (h : r.onto stored = some merged) :
    (RecordRow.ofRecord merged).key = (RecordRow.ofRecord r).key := by
  obtain ⟨hprovider, htype, hmonth⟩ := Record.Key.mk.inj (Record.key_of_onto h)
  simp only [RecordRow.key, RecordRow.ofRecord, hprovider, htype, hmonth]

/-- What a table is once a record was merged onto what was stored for it. -/
structure Merged (t : RecordTable) (r : Record) (stored : Option Record) (t' : RecordTable) :
    Prop where
  keys : (t'.rows.map RecordRow.key).Nodup
  others : Keyed.erase RecordRow.key (RecordRow.ofRecord r).key t'.rows =
    Keyed.erase RecordRow.key (RecordRow.ofRecord r).key t.rows
  kept : r.onto stored = none → t' = t
  own : ∀ merged, r.onto stored = some merged →
    ∃ row ∈ t'.rows, row.key = (RecordRow.ofRecord r).key ∧ row.decode = .ok merged

theorem exists_merged_of_find (hkeys : (t.rows.map RecordRow.key).Nodup) (hr : r.Storable)
    {stored : Option Record} (h : t.find r = .ok stored) :
    ∃ t', t.upsert r = .ok t' ∧ t.Merged r stored t' := by
  refine ⟨_, upsert_of_find h, ?_⟩
  cases honto : r.onto stored with
  | none => exact ⟨hkeys, rfl, fun _ ↦ rfl, fun merged hmerged ↦ by simp [honto] at hmerged⟩
  | some merged =>
    have hkey := key_ofRecord_onto honto
    refine ⟨Keyed.nodup_put _ _ hkeys, ?_, fun hnone ↦ by simp [honto] at hnone, ?_⟩
    · rw [← hkey]
      exact Keyed.erase_put_self _ _ _
    · intro merged' hmerged
      obtain rfl : merged = merged' := Option.some.inj (honto.symm.trans hmerged)
      refine ⟨_, List.mem_of_find?_eq_some (Keyed.get?_put_self RecordRow.key _ t.rows), hkey, ?_⟩
      exact RecordRow.decode_ofRecord (hr.onto honto)

end RecordTable

namespace RecordStore

variable {s : RecordStore} {t : RecordTable} {r : Record}

/-- A call that meets no fault does what its table does. -/
theorem upsert_of_table (hs : s.archive = .table t) (hmet : (meet r.key s.writeFaults).1 = none) :
    (∀ e, t.upsert r = .error e →
      (s.upsert r).1 = .error e ∧ (s.upsert r).2.archive = .table t) ∧
    ∀ t', t.upsert r = .ok t' → (s.upsert r).1 = .ok () ∧ (s.upsert r).2.archive = .table t' := by
  rw [upsert, hs]
  simp only [hmet, RecordArchive.upsert]
  constructor
  · intro e he
    simp only [he, Except.map]
    exact ⟨trivial, trivial⟩
  · intro t' ht'
    simp only [ht', Except.map]
    exact ⟨trivial, trivial⟩

/-- Whatever rows are in a table, storing a record that can be kept fails exactly if the row of its
key has a payload that is no JSON text, and then changes nothing. Otherwise it succeeds and leaves
every other row as it is and where it is; its own row stands for what the record becomes on what was
stored before, or stays as it was. -/
theorem upsert_changes_own_row (hs : s.archive = .table t)
    (hkeys : (t.rows.map RecordRow.key).Nodup) (hmet : (meet r.key s.writeFaults).1 = none)
    (hr : r.Storable) :
    let key := (RecordRow.ofRecord r).key
    let result := (s.upsert r).1
    ((∃ e, result = .error e) ↔ ∃ row ∈ t.rows, row.key = key ∧
      ∃ text ∈ row.payload, Json.ofText? text = none) ∧
    ∃ t', (s.upsert r).2.archive = .table t' ∧ (t'.rows.map RecordRow.key).Nodup ∧
      (∀ e, result = .error e → t' = t) ∧
      Keyed.erase RecordRow.key key t'.rows = Keyed.erase RecordRow.key key t.rows ∧
      (result = .ok () → ∃ stored, t.Stored key stored ∧ (r.onto stored = none → t' = t) ∧
        ∀ merged, r.onto stored = some merged →
          ∃ row ∈ t'.rows, row.key = key ∧ row.decode = .ok merged) := by
  intro key result
  obtain ⟨hfails, hstores⟩ := upsert_of_table hs hmet
  by_cases hbad : ∃ row ∈ t.rows, row.key = key ∧ row.Malformed
  · obtain ⟨row, hrow, hkey, hmalformed⟩ := hbad
    obtain ⟨e, he⟩ := RecordTable.find_of_malformed hkeys hr hrow hkey hmalformed
    obtain ⟨(hresult : result = _), harchive⟩ := hfails e (RecordTable.upsert_of_find_error he)
    refine ⟨⟨fun _ ↦ ⟨row, hrow, hkey, hmalformed⟩, fun _ ↦ ⟨e, hresult⟩⟩, t, harchive, hkeys,
      fun _ _ ↦ rfl, rfl, ?_⟩
    intro hok
    rw [hresult] at hok
    contradiction
  · have hsound : ∀ row ∈ t.rows, row.key = key → ¬row.Malformed :=
      fun row hrow hkey hmalformed ↦ hbad ⟨row, hrow, hkey, hmalformed⟩
    obtain ⟨stored, hfind, hstored⟩ := RecordTable.find_of_not_malformed hkeys hr hsound
    obtain ⟨t', hupsert, hmerged⟩ := RecordTable.exists_merged_of_find hkeys hr hfind
    obtain ⟨(hresult : result = _), harchive⟩ := hstores t' hupsert
    have hnot : ∀ e, result ≠ .error e := by
      intro e he
      rw [hresult] at he
      contradiction
    exact ⟨⟨fun ⟨e, he⟩ ↦ absurd he (hnot e), fun h ↦ absurd h hbad⟩, t', harchive, hmerged.keys,
      fun e he ↦ absurd he (hnot e), hmerged.others,
      fun _ ↦ ⟨stored, hstored, hmerged.kept, hmerged.own⟩⟩

/-- A failure arrives onto a failure that was counted below zero, beside a row without a month and
one with a malformed payload and a count that no record can have. -/
theorem upsert_changes_own_row_among_foreign :
    let r : Record := .placeholder "p" "DR" (.january 2020) "late"
    let own : RecordRow := ⟨"p", "DR", "2020-01", none, some "early", -3⟩
    let foreign : List RecordRow :=
      [⟨"p", "DR", "soon", some "[", none, 0⟩, ⟨"p", "DR", "2020-02", some "[", none, 5000000000⟩]
    let s : RecordStore := { archive := .table ⟨own :: foreign⟩ }
    (s.upsert r).1 = .ok () ∧ ∃ t', (s.upsert r).2.archive = .table t' ∧
      Keyed.erase RecordRow.key own.key t'.rows = foreign ∧
      ∃ row ∈ t'.rows, row.key = own.key ∧ row.decode = .ok r := by
  intro r own foreign s
  have hkey : (RecordRow.ofRecord r).key = own.key := by decide +kernel
  have hresult : (s.upsert r).1 = .ok () := by decide +kernel
  have hr : r.Storable := ⟨by decide, by simp [r, Record.placeholder], by decide⟩
  have hdecode : own.decode = .ok { r with failure := some "early", attempts := 0 } := by
    rw [RecordRow.decode, RecordTable.ofText_month_of_key hr hkey.symm]
    rfl
  obtain ⟨-, t', harchive, -, -, hothers, hok⟩ :=
    upsert_changes_own_row (s := s) (t := ⟨own :: foreign⟩) rfl (by decide) rfl hr
  obtain ⟨stored, hstored, -, hmerged⟩ := hok hresult
  rw [hkey] at hothers hstored hmerged
  refine ⟨hresult, t', harchive, hothers.trans (by decide), hmerged r ?_⟩
  cases hstored with
  | nothing absent => exact absurd rfl (absent own List.mem_cons_self)
  | record hrow hown decoded =>
    have hforeign : ∀ row ∈ foreign, row.key ≠ own.key := by decide
    obtain rfl := (List.mem_cons.mp hrow).resolve_right fun h ↦ hforeign _ h hown
    obtain rfl := Except.ok.inj (decoded.symm.trans hdecode)
    rfl

end RecordStore
end UsageReports
