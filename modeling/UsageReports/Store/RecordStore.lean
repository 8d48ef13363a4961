import UsageReports.Store.RecordArchive

/-!
# Calls to a record store

A record archive whose calls may fail, and writing with retries: a fault that may pass is tried
again, any other ends the attempt to write.
-/

namespace UsageReports

/-- A record archive, and what its calls meet: for each record in order the faults of its coming
writes, and the providers whose records cannot be read. -/
structure RecordStore where
  archive : RecordArchive
  writeFaults : List (Record.Key × Option StoreError) := []
  readFaults : List (String × StoreError) := []
  /-- How many writes were attempted. -/
  writes : Nat := 0

namespace RecordStore

/-- What the next write of a record meets, and what later writes meet. -/
def meet (key : Record.Key) : List (Record.Key × Option StoreError) →
    Option StoreError × List (Record.Key × Option StoreError)
  | [] => (none, [])
  | (k, fault) :: rest =>
    if k = key then (fault, rest)
    else
      let (met, rest) := meet key rest
      (met, (k, fault) :: rest)

/-- The records of a provider and report type. -/
def existing (s : RecordStore) (provider reportType : String) : Except StoreError (List Record) :=
  match s.readFaults.lookup provider with
  | some e => .error e
  | none => s.archive.existing provider reportType

/-- The records of a provider of some report types, type by type. -/
def existingOf (s : RecordStore) (provider : String) :
    List String → Except StoreError (List Record)
  | [] => .ok []
  | t :: ts => do
    let records ← s.existing provider t
    let rest ← s.existingOf provider ts
    pure (records ++ rest)

/-- Merge a record onto the stored one of its key. -/
def upsert (s : RecordStore) (r : Record) : Except StoreError Unit × RecordStore :=
  let (fault, writeFaults) := meet r.key s.writeFaults
  let s := { s with writeFaults, writes := s.writes + 1 }
  match fault with
  | some e => (.error e, s)
  | none =>
    match s.archive.upsert r with
    | .error e => (.error e, s)
    | .ok archive => (.ok (), { s with archive })

/-- Write a record, with so many retries left. -/
def persist (s : RecordStore) (r : Record) : Nat → Except StoreError Unit × RecordStore
  | 0 => s.upsert r
  | retries + 1 =>
    match s.upsert r with
    | (.ok (), s) => (.ok (), s)
    | (.error e, s) => if e.isTransient then s.persist r retries else (.error e, s)

/-- How many records were written and how many could not be. -/
structure Written where
  written : Nat := 0
  failures : Nat := 0
deriving DecidableEq

/-- Write records one after the other; one that cannot be written keeps no other from being
written. -/
def persistAll (s : RecordStore) (retries : Nat) : List Record → Written × RecordStore
  | [] => ({}, s)
  | r :: rest =>
    let (result, s) := s.persist r retries
    let (count, s) := s.persistAll retries rest
    match result with
    | .ok () => ({ count with written := count.written + 1 }, s)
    | .error _ => ({ count with failures := count.failures + 1 }, s)

end RecordStore

end UsageReports
