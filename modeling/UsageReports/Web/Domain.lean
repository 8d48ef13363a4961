import UsageReports.Text.Composed
import UsageReports.Web.Direction
import UsageReports.Web.DomainTable
import UsageReports.Web.Percent
import UsageReports.Web.Punycode

/-!
# Domains

The name of a host in ASCII. Each character is kept, left out, replaced or refused; the text is
composed and cut into labels at its dots; each label is checked, and written in ASCII. A label may
be given in its ASCII form already, if it is the form of a label that would be kept as it is.
-/

namespace UsageReports.Domain

/-- Whether a domain may not hold a character of ASCII: controls, blanks, and the marks that URLs
are made of. -/
def isForbidden (c : Char) : Bool :=
  c.toNat ≤ 0x20 || c.toNat == 0x7F ||
    ['%', '#', '/', ':', '<', '>', '?', '@', '[', '\\', ']', '^', '|'].contains c

/-- The characters beyond ASCII that are allowed. -/
def allowed : CharTable := .ofLines DomainTable.allowedRuns

/-- Those that are left out. -/
def ignored : CharTable := .ofLines DomainTable.ignoredRuns

/-- Those that are replaced. -/
def replaced : CharTable := .ofLines DomainTable.replacements

/-- What becomes of a character. -/
def ofChar? (c : Char) : Option (List Char) :=
  if c.toNat < 128 then some [c.toLower]
  else if !allowed.holds c then none
  else if ignored.holds c then some []
  else
    match replaced.values? c with
    | some ns => some (ns.map Char.ofNat)
    | none => some [c]

/-- What becomes of a text. -/
def mapped? (cs : List Char) : Option (List Char) :=
  (cs.mapM ofChar?).map fun css => Composed.ofChars css.flatten

/-! ## Labels -/

/-- The marks that go onto another character. -/
def marks : CharTable := .ofLines ScriptTable.markRuns

/-- The tables of letters that join. -/
def joining : CharTable × CharTable × CharTable × CharTable :=
  (.ofLines ScriptTable.dualRuns, .ofLines ScriptTable.leftRuns,
    .ofLines ScriptTable.rightJoiningRuns, .ofLines ScriptTable.transparentRuns)

/-- The class of the mark that joins letters of Indic scripts. -/
def virama : Nat := 9

/-- Whether a character may stand between two letters, so as to join them or to keep them from
joining. `before` is what stands before it, backwards. -/
def isJoinerInPlace (c : Char) (before after : List Char) : Bool :=
  let (dual, left, right, transparent) := joining
  if (before.head?.map Composed.classOf) = some virama then true
  else if c = '\u200d' then false
  else
    ((before.dropWhile transparent.holds).head?.any fun d => dual.holds d || left.holds d) &&
      ((after.dropWhile transparent.holds).head?.any fun d => dual.holds d || right.holds d)

/-- Whether all joiners of a label are in places where they may be. -/
def joinersInPlace (before : List Char) : List Char → Bool
  | [] => true
  | c :: cs =>
    (if c = '\u200c' ∨ c = '\u200d' then isJoinerInPlace c before cs else true) &&
      joinersInPlace (c :: before) cs

/-- Whether a label can be kept as it is. -/
def isLabel (cs : List Char) : Bool :=
  !cs.any isForbidden && !cs.head?.any marks.holds && joinersInPlace [] cs &&
    mapped? cs = some cs

/-- What an ASCII form of a label begins with. -/
def asciiMark : List Char := ['x', 'n', '-', '-']

/-- The label that is meant: what an ASCII form stands for, or the label itself. -/
def label? (cs : List Char) : Option (List Char) :=
  if asciiMark.isPrefixOf cs then
    ((Punycode.decode? (cs.drop asciiMark.length)).filter fun label =>
      label.any (128 ≤ ·.toNat) && isLabel label)
  else if isLabel cs then some cs
  else none

/-- The ASCII form of a label. -/
def asciiLabel (cs : List Char) : List Char :=
  if cs.all (·.toNat < 128) then cs else asciiMark ++ Punycode.encode cs

/-- The ASCII form of a domain. -/
def toAscii? (cs : List Char) : Option (List Char) := do
  let labels ← (splitAtEach '.' (← mapped? cs)).mapM label?
  if Direction.areClear labels then pure (['.'].intercalate (labels.map asciiLabel)) else none

end UsageReports.Domain
