import UsageReports.Store.RecordTable

/-!
# Record archives

Where a harvest keeps its records: in memory or in a table.
-/

namespace UsageReports

/-- A store of records of either kind. -/
inductive RecordArchive where
  | memory (records : Records)
  | table (rows : RecordTable)

namespace RecordArchive

/-- The records of a provider and report type. -/
def existing (a : RecordArchive) (provider reportType : String) :
    Except StoreError (List Record) :=
  match a with
  | memory records => .ok (records.existing provider reportType)
  | table rows => rows.existing provider reportType

/-- Merge a record onto the stored one of its key. -/
def upsert (a : RecordArchive) (r : Record) : Except StoreError RecordArchive :=
  match a with
  | memory records => .ok (memory (records.upsert r))
  | table rows => (rows.upsert r).map table

/-- How many records there are. -/
def count : RecordArchive → Nat
  | memory records => records.count
  | table rows => rows.count

end RecordArchive

end UsageReports
