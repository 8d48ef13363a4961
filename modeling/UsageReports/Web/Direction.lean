import UsageReports.Web.ScriptTable

/-!
# Directions of writing

A label of a domain is written from left to right or from right to left, and its characters must go
together: otherwise two domains could look alike. A domain without any character that is written
from right to left need not be looked at.
-/

namespace UsageReports

/-- How a character is written. -/
inductive Direction where
  | left
  | right
  | arabic
  | arabicDigit
  | digit
  /-- Signs that go with any direction. -/
  | weak
  /-- Marks without direction. -/
  | nonspacing
  /-- What may stand in no label that is looked at. -/
  | stray
deriving DecidableEq

namespace Direction

/-- The tables of directions. -/
def tables : List (Direction × CharTable) :=
  [(right, .ofLines ScriptTable.rightRuns), (arabic, .ofLines ScriptTable.arabicRuns),
    (arabicDigit, .ofLines ScriptTable.arabicDigitRuns), (digit, .ofLines ScriptTable.digitRuns),
    (weak, .ofLines ScriptTable.weakRuns), (nonspacing, .ofLines ScriptTable.nonspacingRuns),
    (stray, .ofLines ScriptTable.strayRuns)]

/-- How a character is written. -/
def ofChar (c : Char) : Direction :=
  if c.toNat < 128 then
    if c.isAlpha then left else if c.isDigit then digit
    else if c.toNat ≤ 0x20 then stray else weak
  else ((tables.find? (·.2.holds c)).map Prod.fst).getD left

/-- Whether a character makes a domain one that is looked at. -/
def isRightToLeft (d : Direction) : Bool := d = right || d = arabic || d = arabicDigit

/-- The last direction of a label, marks left out. -/
def last? (ds : List Direction) : Option Direction := (ds.filter (· ≠ nonspacing)).getLast?

/-- Whether the characters of a label go together. -/
def goTogether (ds : List Direction) : Bool :=
  match ds with
  | [] => true
  | first :: _ =>
    if first = right ∨ first = arabic then
      ds.all (fun d => d ≠ left ∧ d ≠ stray) &&
        (last? ds).any (fun d => d = right || d = arabic || d = digit || d = arabicDigit) &&
        !(ds.contains digit && ds.contains arabicDigit)
    else if first = left then
      ds.all (fun d => !d.isRightToLeft && d ≠ stray) &&
        (last? ds).any fun d => d = left || d = digit
    else false

/-- Whether the labels of a domain can be told from those of others. -/
def areClear (labels : List (List Char)) : Bool :=
  let ds := labels.map (·.map ofChar)
  !ds.any (·.any isRightToLeft) || ds.all goTogether

end Direction

end UsageReports
