import UsageReports.Store.RecordTable
import UsageReports.Store.TriggerTable
import UsageReports.Text.Split

/-!
# Disks

What commands find on a disk: texts, folders and databases, each at a place of its own. Opening a
database makes it where there is none yet, with the folders on the way to it.
-/

namespace UsageReports

/-- A database: its table of records and its table of triggers. -/
structure Database where
  records : RecordTable := .empty
  triggers : TriggerTable := .empty

/-- What may lie on a disk. -/
inductive DiskEntry where
  | text (content : String)
  | folder
  | database (content : Database)

/-- The names on the way to something. -/
abbrev Place := List String

/-- The place one name further on from another. -/
def Place.step (place : Place) (name : String) : Place :=
  if name = "" ∨ name = "." then place
  else if name = ".." then place.dropLast
  else place ++ [name]

/-- The place that a path names. The root of the disk has a name of its own. -/
def placeOf (path : String) : Place :=
  let names := (splitAtEach '/' path.toList).map String.ofList
  match names with
  | "" :: _ :: _ => names.foldl Place.step ["/"]
  | _ => names.foldl Place.step []

/-- What lies on a disk, each place at most once. -/
structure Disk where
  entries : List (Place × DiskEntry)

namespace Disk

/-- What lies at a place. Wherever something lies further on there is a folder. -/
def at? (d : Disk) (place : Place) : Option DiskEntry :=
  match Keyed.get? Prod.fst place d.entries with
  | some (_, entry) => some entry
  | none =>
    if place = [] ∨ place = ["/"] ∨ d.entries.any (place.isPrefixOf ·.1) then some .folder else none

/-- Put something at a place. -/
def put (d : Disk) (place : Place) (entry : DiskEntry) : Disk :=
  ⟨Keyed.put Prod.fst (place, entry) d.entries⟩

/-- A disk with texts at paths. -/
def ofTexts (texts : List (String × String)) : Disk :=
  texts.foldl (fun d (path, content) => d.put (placeOf path) (.text content)) ⟨[]⟩

/-- The text that a path names. -/
def text? (d : Disk) (path : String) : Option String :=
  match d.at? (placeOf path) with
  | some (.text content) => some content
  | _ => none

/-- Make the folders at a place and on the way to it; `before` is the way so far. -/
def makeFolders (d : Disk) (before : Place) : Place → Except StoreError Disk
  | [] => .ok d
  | name :: names =>
    let place := before ++ [name]
    match d.at? place with
    | some .folder => d.makeFolders place names
    | none => (d.put place .folder).makeFolders place names
    | some _ =>
      .error (.io (if names = [] then "File exists (os error 17)" else "Not a directory (os error 20)"))

/-- Whether a path names a database that lasts only while it is open. -/
def isFleeting (path : String) : Bool := path = "" || path = ":memory:"

/-- Open the database that a path names. -/
def openDatabase (d : Disk) (path : String) : Except StoreError Database × Disk :=
  if isFleeting path then (.ok {}, d)
  else
    let place := placeOf path
    match d.makeFolders [] place.dropLast with
    | .error e => (.error e, d)
    | .ok d =>
      match d.at? place with
      | some (.database content) => (.ok content, d)
      | none | some (.text "") => (.ok {}, d.put place (.database {}))
      | some (.text _) => (.error (.database .noDatabase), d)
      | some .folder => (.error (.database (.unopened path)), d)

/-- Keep what a database has become. -/
def keep (d : Disk) (path : String) (content : Database) : Disk :=
  if isFleeting path then d else d.put (placeOf path) (.database content)

end Disk

end UsageReports
