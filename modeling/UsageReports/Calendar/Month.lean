/-!
# Months

A month is a year of the proleptic Gregorian calendar and a number from 1 to 12. Months are ordered
by year and number. `Month.index` counts them, so that moving by months is addition.
-/

namespace UsageReports

/-- A calendar month. Years may be zero or negative; `number` runs from 1 to 12. -/
structure Month where
  year : Int
  number : Nat
  one_le : 1 ≤ number := by first | decide | omega
  le_twelve : number ≤ 12 := by first | decide | omega
deriving DecidableEq

namespace Month

instance : Inhabited Month := ⟨{ year := 1970, number := 1 }⟩

/-- Earlier year, or the same year and a smaller number. -/
instance : LT Month := ⟨fun a b => a.year < b.year ∨ a.year = b.year ∧ a.number < b.number⟩

/-- Earlier year, or the same year and no larger number. -/
instance : LE Month := ⟨fun a b => a.year < b.year ∨ a.year = b.year ∧ a.number ≤ b.number⟩

theorem lt_def {a b : Month} :
    a < b ↔ a.year < b.year ∨ a.year = b.year ∧ a.number < b.number := Iff.rfl

theorem le_def {a b : Month} :
    a ≤ b ↔ a.year < b.year ∨ a.year = b.year ∧ a.number ≤ b.number := Iff.rfl

instance (a b : Month) : Decidable (a < b) := decidable_of_iff _ lt_def.symm

instance (a b : Month) : Decidable (a ≤ b) := decidable_of_iff _ le_def.symm

/-- The first month of a year. -/
def january (year : Int) : Month := { year, number := 1 }

/-- The month after `m`. -/
def succ (m : Month) : Month :=
  if h : m.number = 12 then { year := m.year + 1, number := 1 }
  else { year := m.year, number := m.number + 1, le_twelve := by have := m.le_twelve; omega }

/-- The month before `m`. -/
def pred (m : Month) : Month :=
  if h : m.number = 1 then { year := m.year - 1, number := 12 }
  else { year := m.year, number := m.number - 1
         one_le := by have := m.one_le; omega
         le_twelve := by have := m.le_twelve; omega }

/-- Months since January of the year 0. -/
def index (m : Month) : Int := m.year * 12 + (m.number - 1)

/-- The month `n` months after `m`; before it for a negative `n`. -/
def addMonths (m : Month) (n : Int) : Month :=
  { year := (m.index + n) / 12
    number := ((m.index + n) % 12).toNat + 1 }

/-- How many months `other` lies after `m`; negative when it lies before. -/
def monthsUntil (m other : Month) : Int := other.index - m.index

/-- `count` successive months, the first of them `m`. -/
def successive (m : Month) : Nat → List Month
  | 0 => []
  | count + 1 => m :: m.succ.successive count

/-- All months from `first` to `last`, both included; none when `last` is earlier. -/
def between (first last : Month) : List Month :=
  first.successive (first.monthsUntil last + 1).toNat

/-- The requested end where it is given and not after `bound`, else `bound`. -/
def clampEnd (requested : Option Month) (bound : Month) : Month :=
  match requested with
  | some m => if m ≤ bound then m else bound
  | none => bound

/-- Whether a year is a leap year of the Gregorian calendar. -/
def isLeapYear (year : Int) : Bool := year % 4 = 0 && (year % 100 ≠ 0 || year % 400 = 0)

/-- Days in a month. -/
def length (m : Month) : Nat :=
  if m.number = 2 then (if isLeapYear m.year then 29 else 28)
  else if m.number = 4 ∨ m.number = 6 ∨ m.number = 9 ∨ m.number = 11 then 30
  else 31

theorem one_le_length (m : Month) : 1 ≤ m.length := by
  unfold length
  split
  · split <;> omega
  · split <;> omega

theorem length_le (m : Month) : m.length ≤ 31 := by
  unfold length
  split
  · split <;> omega
  · split <;> omega

/-- Two months are equal when they have the same place in the count of months. -/
theorem eq_of_index_eq {a b : Month} (h : a.index = b.index) : a = b := by
  obtain ⟨y, n, h1, h2⟩ := a
  obtain ⟨y', n', h1', h2'⟩ := b
  simp only [index] at h
  have hy : y = y' := by omega
  have hn : n = n' := by omega
  subst hy hn
  rfl

/-- The order of months is the order of their places in the count. -/
theorem lt_iff_index_lt {a b : Month} : a < b ↔ a.index < b.index := by
  have := a.one_le; have := a.le_twelve; have := b.one_le; have := b.le_twelve
  simp only [lt_def, index]
  omega

theorem le_iff_index_le {a b : Month} : a ≤ b ↔ a.index ≤ b.index := by
  have := a.one_le; have := a.le_twelve; have := b.one_le; have := b.le_twelve
  simp only [le_def, index]
  omega

@[simp] theorem index_succ (m : Month) : m.succ.index = m.index + 1 := by
  have := m.one_le; have := m.le_twelve
  unfold succ
  split <;> simp only [index] <;> omega

@[simp] theorem index_pred (m : Month) : m.pred.index = m.index - 1 := by
  have := m.one_le; have := m.le_twelve
  unfold pred
  split <;> simp only [index] <;> omega

@[simp] theorem index_addMonths (m : Month) (n : Int) : (m.addMonths n).index = m.index + n := by
  change (m.index + n) / 12 * 12 + ((((m.index + n) % 12).toNat + 1 : Nat) - 1 : Int) = m.index + n
  omega

end Month

end UsageReports
