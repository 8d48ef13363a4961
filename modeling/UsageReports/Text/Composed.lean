import UsageReports.Text.CanonicalTable

/-!
# Composed text

Text in which every letter with a mark is one character where there is such a character, and marks
that do not touch each other are in a fixed order: a text has one such form, however it was typed.
-/

namespace UsageReports.Composed

/-- The composed characters. -/
def compositeTable : CharTable := .ofLines CanonicalTable.composites

/-- The classes of marks. -/
def classTable : CharTable := .ofLines CanonicalTable.classRuns

/-- The class of a mark, zero for everything else. All marks of a run have one class. -/
def classOf (c : Char) : Nat := ((classTable.find? c).bind (·.values.head?)).getD 0

/-! ## Syllables of Hangul -/

/-- The first syllable. -/
def syllables : Nat := 0xAC00

/-- The first of the leading consonants, of the vowels and of the trailing consonants; the last of
these stand for nothing. -/
def leading : Nat := 0x1100

/-- The first of the vowels. -/
def vowels : Nat := 0x1161

/-- One before the first of the trailing consonants. -/
def trailing : Nat := 0x11A7

/-- The letters of a syllable. -/
def letters? (n : Nat) : Option (List Nat) :=
  if syllables ≤ n ∧ n < syllables + 19 * 21 * 28 then
    let place := n - syllables
    let pair := [leading + place / 588, vowels + place % 588 / 28]
    some (if place % 28 = 0 then pair else pair ++ [trailing + place % 28])
  else none

/-- The syllable of two letters, or of a syllable and a trailing consonant. -/
def syllable? (a b : Nat) : Option Nat :=
  if leading ≤ a ∧ a < leading + 19 ∧ vowels ≤ b ∧ b < vowels + 21 then
    some (syllables + (a - leading) * 588 + (b - vowels) * 28)
  else if syllables ≤ a ∧ a < syllables + 19 * 21 * 28 ∧ (a - syllables) % 28 = 0 ∧
      trailing < b ∧ b < trailing + 28 then
    some (a + (b - trailing))
  else none

/-! ## Taking apart and putting together -/

/-- What a character is made of; what it is made of may be composed so often. -/
def parts (depth : Nat) (c : Char) : List Char :=
  match letters? c.toNat with
  | some ns => ns.map Char.ofNat
  | none =>
    match depth, (compositeTable.find? c).map CharRun.values with
    | depth + 1, some ns => ns.flatMap fun n => parts depth (Char.ofNat n)
    | _, _ => [c]

/-- How often a character can be taken apart. -/
def maxDepth : Nat := 4

/-- Put a mark after those of its class or a lower one. -/
def insertMark (c : Char) : List Char → List Char
  | [] => [c]
  | d :: ds => if classOf c < classOf d then c :: d :: ds else d :: insertMark c ds

/-- Put the marks after each letter in order; `marks` are those met since the last letter. -/
def ordered (marks : List Char) : List Char → List Char
  | [] => marks
  | c :: cs =>
    if classOf c = 0 then marks ++ c :: ordered [] cs else ordered (insertMark c marks) cs

/-- The character that two others make. -/
def pair? (a b : Char) : Option Char :=
  match syllable? a.toNat b.toNat with
  | some n => some (Char.ofNat n)
  | none =>
    (compositeTable.runs.find? fun r => r.values = [a.toNat, b.toNat]).map fun r => Char.ofNat r.first

/-- Put a letter together with what follows it. `kept` are the marks between them, backwards: a mark
of the same class, or a letter that stays, keeps those behind it away. -/
def joined (letter : Char) (kept : List Char) : List Char → List Char
  | [] => letter :: kept.reverse
  | c :: cs =>
    let isNear := kept.all fun d => classOf d < classOf c
    match if isNear then pair? letter c else none with
    | some whole => joined whole kept cs
    | none =>
      if classOf c = 0 then letter :: kept.reverse ++ joined c [] cs
      else joined letter (c :: kept) cs

/-- The composed form of a text. -/
def ofChars (cs : List Char) : List Char :=
  match ordered [] (cs.flatMap (parts maxDepth)) with
  | [] => []
  | c :: cs => joined c [] cs

end UsageReports.Composed
