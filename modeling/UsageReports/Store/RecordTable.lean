import UsageReports.Store.Records

/-!
# Records as table rows

The stored records as rows of text and numbers. Rows may have been written by others: a row is
decoded when it is read, and what means nothing is an error. Months are compared as text.
-/

namespace UsageReports

/-- A row of the table of records. Its key is the provider, the report type and the month. -/
structure RecordRow where
  provider : String
  reportType : String
  month : String
  payload : Option String
  failure : Option String
  attempts : Int
deriving DecidableEq

namespace RecordRow

/-- The key of a row. -/
def key (r : RecordRow) : String × String × String := (r.provider, r.reportType, r.month)

/-- The row of a record. -/
def ofRecord (r : Record) : RecordRow :=
  ⟨r.provider, r.reportType, r.month.text, r.payload.map Json.text, r.failure, r.attempts⟩

/-- The record of a row: the month is read first, then the payload. A count that does not fit 32
bits counts as zero. -/
def decode (row : RecordRow) : Except StoreError Record := do
  let month ← match Month.ofText row.month with
    | .ok m => pure m
    | .error e => .error (.corrupt s!"month '{row.month}': {e.message}")
  let payload ← match row.payload with
    | none => pure none
    | some text =>
      match Json.ofText? text with
      | some j => pure (some j)
      | none => .error (.serialization "payload is no JSON text")
  let attempts := if 0 ≤ row.attempts ∧ row.attempts ≤ maxUInt32 then row.attempts.toNat else 0
  pure { provider := row.provider, reportType := row.reportType, month, payload
         failure := row.failure, attempts }

end RecordRow

/-- A table of records, each key at most once. -/
structure RecordTable where
  rows : List RecordRow
deriving DecidableEq

namespace RecordTable

/-- No rows. -/
def empty : RecordTable := ⟨[]⟩

/-- Put a row in the table as it is, in place of one with its key. -/
def putRow (t : RecordTable) (row : RecordRow) : RecordTable :=
  ⟨Keyed.put RecordRow.key row t.rows⟩

/-- The record in the row with a record's key. -/
def find (t : RecordTable) (r : Record) : Except StoreError (Option Record) :=
  match Keyed.get? RecordRow.key (RecordRow.ofRecord r).key t.rows with
  | none => .ok none
  | some row => row.decode.map some

/-- Merge a record onto the stored one of its key. -/
def upsert (t : RecordTable) (r : Record) : Except StoreError RecordTable := do
  let stored ← t.find r
  match r.onto stored with
  | some merged => pure (t.putRow (.ofRecord merged))
  | none => pure t

/-- The records of a provider and report type, by the text of their months. -/
def existing (t : RecordTable) (provider reportType : String) :
    Except StoreError (List Record) :=
  ((t.rows.filter fun r => r.provider = provider && r.reportType = reportType).mergeSort
    fun a b => a.month ≤ b.month).mapM RecordRow.decode

/-- How many rows there are. -/
def count (t : RecordTable) : Nat := t.rows.length

end RecordTable

end UsageReports
