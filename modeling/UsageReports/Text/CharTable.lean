import UsageReports.Text.Numeral
import UsageReports.Text.Split

/-!
# Runs of characters

A compact form for tables of characters. An entry begins with the distance from the end of the entry
before it, in hexadecimal. `+` tells how many more characters follow one after the other, `*` how
many follow with one left out each time. After `>` stands what the first character of the entry is
given: a number, or several with dots between them.
-/

namespace UsageReports

/-- An entry of a table: characters at equal distances, and what the first of them is given. -/
structure CharRun where
  first : Nat
  last : Nat
  step : Nat
  values : List Nat
deriving DecidableEq

namespace CharRun

/-- Whether a character is in a run. -/
def holds (r : CharRun) (n : Nat) : Bool := r.first ≤ n && n ≤ r.last && (n - r.first) % r.step == 0

/-- A number in hexadecimal; what is no digit counts as zero. -/
def number (cs : List Char) : Nat := cs.foldl (fun n c => 16 * n + (hexValue? c).getD 0) 0

/-- Read an entry that follows another which ends at `before`. -/
def ofChars (before : Nat) (cs : List Char) : CharRun :=
  let (place, given) := splitAtFirst '>' cs
  let values := (given.map fun cs => (splitAtEach '.' cs).map number).getD []
  match splitAtFirst '*' place with
  | (gap, some more) =>
    let first := before + number gap
    ⟨first, first + 2 * number more, 2, values⟩
  | (_, none) =>
    let (gap, more) := splitAtFirst '+' place
    let first := before + number gap
    ⟨first, first + number (more.getD []), 1, values⟩

/-- Read entries one after the other. -/
def ofEntries (before : Nat) : List (List Char) → List CharRun
  | [] => []
  | cs :: rest =>
    let r := ofChars before cs
    r :: ofEntries r.last rest

end CharRun

/-- A table of runs, in the order of their characters. -/
structure CharTable where
  runs : List CharRun
deriving DecidableEq

namespace CharTable

/-- Read a table from its lines. -/
def ofLines (lines : List String) : CharTable :=
  ⟨CharRun.ofEntries 0 (lines.flatMap fun line => splitAtEach ' ' line.toList)⟩

/-- The run that holds a character. -/
def find? (t : CharTable) (c : Char) : Option CharRun := t.runs.find? (·.holds c.toNat)

/-- Whether a character is in a table. -/
def holds (t : CharTable) (c : Char) : Bool := (t.find? c).isSome

/-- What a character is given: its distance from the first of its run is added to a single number,
while several numbers stay as they are. -/
def values? (t : CharTable) (c : Char) : Option (List Nat) :=
  (t.find? c).map fun r =>
    match r.values with
    | [n] => [n + (c.toNat - r.first)]
    | ns => ns

end CharTable

end UsageReports
