import UsageReports.Calendar.MonthText

/-!
# Data trees

What a document holds before it is given a meaning: the common form of the formats that settings,
records and answers are written in. Tables keep their entries in written order, repeated keys
included, so that each reader applies its own rule to them.

A structure is read from a table of its fields, or from a list of them in their declared order.
Unknown fields are ignored, a repeated field is refused.
-/

namespace UsageReports

/-- One node of a document. -/
inductive Data where
  | null
  | bool (b : Bool)
  | int (n : Int)
  /-- A double, by its bits. -/
  | double (bits : UInt64)
  | text (s : String)
  | list (items : List Data)
  | table (entries : List (String × Data))
  /-- What may stand in a document where nobody reads it, and nowhere else: a number out of range, a
  text with half a surrogate pair. -/
  | unusable
deriving Inhabited

namespace Data

/-- The fields of a structure, each where it is given. `optional` counts the fields at the end that
a list may leave out. -/
structure Fields where
  values : List (String × Data)

/-- Pair the names of a structure with the items of a list. The items may end where all names left
are among the last `optional`; none may be left over. -/
def pairFields (optional : Nat) : List String → List Data → Option (List (String × Data))
  | [], [] => some []
  | [], _ :: _ => none
  | names, [] => if names.length ≤ optional then some [] else none
  | name :: names, item :: items => (pairFields optional names items).map ((name, item) :: ·)

/-- Whether no name occurs twice among the entries of a structure with these field names. -/
def fieldsDistinct (names : List String) (entries : List (String × Data)) : Bool :=
  names.all fun name => (entries.filter (·.1 = name)).length ≤ 1

/-- The fields of a structure with these names, the last `optional` of which a list may leave
out. -/
def fields? (names : List String) (optional : Nat) : Data → Option Fields
  | .table entries =>
    if fieldsDistinct names entries then some ⟨entries.filter (names.contains ·.1)⟩ else none
  | .list items => (pairFields optional names items).map Fields.mk
  | _ => none

/-- The value of a field, where it is given. -/
def Fields.get? (fs : Fields) (name : String) : Option Data := fs.values.lookup name

/-- A field that must be given. -/
def Fields.required {α : Type} (fs : Fields) (name : String) (read : Data → Option α) : Option α :=
  (fs.get? name).bind read

/-- A field with a value of its own where it is not given. -/
def Fields.withDefault {α : Type} (fs : Fields) (name : String) (value : α)
    (read : Data → Option α) : Option α :=
  match fs.get? name with
  | none => some value
  | some d => read d

/-- A field that may be missing or null. -/
def Fields.optional {α : Type} (fs : Fields) (name : String) (read : Data → Option α) :
    Option (Option α) :=
  match fs.get? name with
  | none | some .null => some none
  | some d => (read d).map some

/-- A text. -/
def text? : Data → Option String
  | .text s => some s
  | _ => none

/-- A whole number from 0 to `bound`. -/
def nat? (bound : Nat) : Data → Option Nat
  | .int n => if 0 ≤ n ∧ n ≤ bound then some n.toNat else none
  | _ => none

/-- A list, each item read the same way. -/
def list? {α : Type} (read : Data → Option α) : Data → Option (List α)
  | .list items => items.mapM read
  | _ => none

/-- A table, each value read the same way. -/
def entries? {α : Type} (read : Data → Option α) : Data → Option (List (String × α))
  | .table entries => entries.mapM fun (k, d) => (read d).map (k, ·)
  | _ => none

/-- A month, given as text. -/
def month? : Data → Option Month
  | .text s => (Month.ofText s).toOption
  | _ => none

end Data

end UsageReports
