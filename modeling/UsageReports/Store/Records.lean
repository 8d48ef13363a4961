import UsageReports.Data.Keyed
import UsageReports.Record
import UsageReports.Store.StoreError

/-!
# Records in memory

The stored records, one for each key. A new record is merged onto the stored one.
-/

namespace UsageReports

/-- Keys are ordered by provider, report type and month. -/
def Record.Key.before (a b : Record.Key) : Bool :=
  a.provider < b.provider || a.provider = b.provider &&
    (a.reportType < b.reportType || a.reportType = b.reportType && a.month ≤ b.month)

/-- Stored records, each key at most once. -/
structure Records where
  entries : List Record

namespace Records

/-- No records. -/
def empty : Records := ⟨[]⟩

/-- The record of a key. -/
def get? (s : Records) (k : Record.Key) : Option Record := Keyed.get? Record.key k s.entries

/-- Merge a record onto the stored one of its key. -/
def upsert (s : Records) (r : Record) : Records :=
  match r.onto (s.get? r.key) with
  | some merged => ⟨Keyed.put Record.key merged s.entries⟩
  | none => s

/-- The records of a provider and report type, by month. -/
def existing (s : Records) (provider reportType : String) : List Record :=
  (s.entries.filter fun r => r.provider = provider && r.reportType = reportType).mergeSort
    fun a b => a.month ≤ b.month

/-- How many records there are. -/
def count (s : Records) : Nat := s.entries.length

/-- All records in the order of their keys. -/
def all (s : Records) : List Record := s.entries.mergeSort fun a b => a.key.before b.key

end Records

end UsageReports
