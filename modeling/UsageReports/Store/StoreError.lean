/-!
# Errors of stores

What can go wrong with stored records and triggers, and which of it may pass by itself.
-/

namespace UsageReports

/-- What a database complains of. -/
inductive DatabaseFault where
  | busy
  | locked
  | constraint
  | noRows
  /-- A file that holds something else. -/
  | noDatabase
  | unopened (path : String)
deriving DecidableEq

/-- The complaint in words. -/
def DatabaseFault.text : DatabaseFault → String
  | .busy => "database is locked"
  | .locked => "database table is locked"
  | .constraint => "constraint failed"
  | .noRows => "Query returned no rows"
  | .noDatabase => "file is not a database"
  | .unopened path => s!"unable to open database file: {path}"

/-- What can go wrong with a store. -/
inductive StoreError where
  | database (fault : DatabaseFault)
  /-- A stored payload that is no JSON text, or a payload that cannot be written. -/
  | serialization (reason : String)
  /-- A stored value that means nothing. -/
  | corrupt (reason : String)
  | poisoned
  | io (reason : String)
deriving DecidableEq

namespace StoreError

/-- The error as it is reported. -/
def message : StoreError → String
  | database fault => s!"Database error: {fault.text}"
  | serialization reason => s!"Serialization error: {reason}"
  | corrupt reason => s!"Corrupt stored value: {reason}"
  | poisoned => "Store lock poisoned"
  | io reason => s!"IO error: {reason}"

/-- Whether the same operation may succeed a moment later. -/
def isTransient : StoreError → Bool
  | database .busy | database .locked | io _ => true
  | _ => false

end StoreError

end UsageReports
