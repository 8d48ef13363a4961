import UsageReports.Data.Tree
import UsageReports.Data.Sorted

/-!
# JSON values

A JSON value as a payload holds it: whole numbers of 64 bits apart from doubles, and objects with
each key once, in the order of the keys.
-/

namespace UsageReports

/-- A JSON value. -/
inductive Json where
  | null
  | bool (b : Bool)
  /-- A whole number that fits 64 bits, signed or unsigned. -/
  | int (n : Int)
  /-- A double, by its bits. -/
  | double (bits : UInt64)
  | str (s : String)
  | arr (items : List Json)
  | obj (fields : List (String × Json))
deriving Inhabited

namespace Json

/-- How deep lists and objects may be nested in a document. -/
def maxDepth : Nat := 127

/-- An object of the given fields, in the order of their keys; of several with one key the last
counts. -/
def object (fields : List (String × Json)) : Json := .obj (sortedBy Prod.fst fields)

/-- The value of a document, lists and objects nested at most so deep. -/
def ofData? : Nat → Data → Option Json
  | _, .null => some .null
  | _, .bool b => some (.bool b)
  | _, .int n => some (.int n)
  | _, .double bits => some (.double bits)
  | _, .text s => some (.str s)
  | room + 1, .list items => (items.mapM (ofData? room)).map .arr
  | room + 1, .table entries =>
    (entries.mapM fun entry => (ofData? room entry.2).map (entry.1, ·)).map object
  | 0, .list _ => none
  | 0, .table _ => none
  | _, .unusable => none

/-- The value of a field of an object. -/
def field? (name : String) : Json → Option Json
  | .obj fields => fields.lookup name
  | _ => none

end Json

end UsageReports
