import UsageReports.Calendar.Month
import UsageReports.Text.Numeral

/-!
# Moving by months

Moving by months is addition on the index of months, which keeps their order. In words of 32 bits,
which wrap around, the results are the same as long as a word holds the index that is reached. On
the way to an index nothing wraps around but for some months of a single year.
-/

namespace UsageReports

namespace Month

variable {a b m : Month}

theorem addMonths_addMonths (m : Month) (i j : Int) :
    (m.addMonths i).addMonths j = m.addMonths (i + j) := by
  apply eq_of_index_eq
  simp only [index_addMonths]
  omega

@[simp] theorem monthsUntil_addMonths (m : Month) (i : Int) :
    m.monthsUntil (m.addMonths i) = i := by
  rw [monthsUntil, index_addMonths]
  omega

@[simp] theorem addMonths_monthsUntil (a b : Month) : a.addMonths (a.monthsUntil b) = b := by
  apply eq_of_index_eq
  rw [index_addMonths, monthsUntil]
  omega

theorem succ_eq_addMonths (m : Month) : m.succ = m.addMonths 1 := by
  apply eq_of_index_eq
  rw [index_succ, index_addMonths]

theorem pred_eq_addMonths (m : Month) : m.pred = m.addMonths (-1) := by
  apply eq_of_index_eq
  rw [index_pred, index_addMonths]
  omega

@[simp] theorem pred_succ (m : Month) : m.succ.pred = m := by
  apply eq_of_index_eq
  rw [index_pred, index_succ]
  omega

@[simp] theorem succ_pred (m : Month) : m.pred.succ = m := by
  apply eq_of_index_eq
  rw [index_succ, index_pred]
  omega

theorem lt_iff_monthsUntil_pos : a < b ↔ 0 < a.monthsUntil b := by
  rw [lt_iff_index_lt, monthsUntil]
  omega

end Month

/-! ### Words -/

/-- Whether a signed word of 32 bits holds a number. -/
def IsInt32 (n : Int) : Prop := -maxInt32 - 1 ≤ n ∧ n ≤ maxInt32

instance (n : Int) : Decidable (IsInt32 n) := inferInstanceAs (Decidable (_ ∧ _))

theorem toInt_ofInt {n : Int} (h : IsInt32 n) : (Int32.ofInt n).toInt = n := by
  apply Int32.toInt_ofInt_of_le
  · exact h.1
  · exact Int.lt_of_le_of_lt h.2 (by decide)

/-- A year and a month number in words of 32 bits. -/
structure MonthWords where
  year : Int32
  number : UInt32
deriving DecidableEq

namespace MonthWords

/-- Earlier year, or the same year and a smaller number. -/
instance : LT MonthWords := ⟨fun a b ↦ a.year < b.year ∨ a.year = b.year ∧ a.number < b.number⟩

theorem lt_def {a b : MonthWords} :
    a < b ↔ a.year < b.year ∨ a.year = b.year ∧ a.number < b.number := Iff.rfl

/-- The words of a month. -/
def ofMonth (m : Month) : MonthWords := ⟨.ofInt m.year, .ofNat m.number⟩

/-- The month after `w`. -/
def succ (w : MonthWords) : MonthWords :=
  if w.number = 12 then ⟨w.year + 1, 1⟩ else ⟨w.year, w.number + 1⟩

/-- The month before `w`. -/
def pred (w : MonthWords) : MonthWords :=
  if w.number = 1 then ⟨w.year - 1, 12⟩ else ⟨w.year, w.number - 1⟩

/-- Months since January of the year 0. -/
def index (w : MonthWords) : Int32 := w.year * 12 + (w.number.toInt32 - 1)

/-- The month `n` months after `w`; before it for a negative `n`. -/
def addMonths (w : MonthWords) (n : Int32) : MonthWords :=
  let index := (w.index + n).toInt
  ⟨.ofInt (index / 12), (Int32.ofInt (index % 12) + 1).toUInt32⟩

/-- How many months `other` lies after `w`; negative when it lies before. -/
def monthsUntil (w other : MonthWords) : Int32 := other.index - w.index

variable {a b m : Month}

@[simp] theorem toNat_number (m : Month) : (ofMonth m).number.toNat = m.number := by
  have hle := m.le_twelve
  apply UInt32.toNat_ofNat_of_lt
  change m.number < 4294967296
  omega

theorem toInt_year (h : IsInt32 m.year) : (ofMonth m).year.toInt = m.year := toInt_ofInt h

theorem number_eq_iff (m : Month) (n : UInt32) :
    (ofMonth m).number = n ↔ m.number = n.toNat := by
  rw [← UInt32.toNat_inj, toNat_number]

theorem succ_ofMonth (m : Month) : (ofMonth m).succ = ofMonth m.succ := by
  unfold succ Month.succ
  by_cases h : m.number = 12
  · rw [if_pos ((number_eq_iff m 12).mpr h), dif_pos h]
    simp [ofMonth]
  · rw [if_neg (mt (number_eq_iff m 12).mp h), dif_neg h]
    simp [ofMonth]

theorem pred_ofMonth (m : Month) : (ofMonth m).pred = ofMonth m.pred := by
  unfold pred Month.pred
  by_cases h : m.number = 1
  · rw [if_pos ((number_eq_iff m 1).mpr h), dif_pos h]
    simp [ofMonth]
  · rw [if_neg (mt (number_eq_iff m 1).mp h), dif_neg h]
    simp [ofMonth, UInt32.ofNat_sub, m.one_le]

/-- The index of the words is the word of the index. -/
theorem index_ofMonth (m : Month) : (ofMonth m).index = .ofInt m.index := by
  simp [ofMonth, index, Month.index, Int32.ofInt_eq_ofNat]

/-- Whether a word holds each number on the way to the index of a month. -/
structure HasIndex (m : Month) : Prop where
  months : IsInt32 (m.year * 12)
  index : IsInt32 m.index

/-- A word that holds the index holds the numbers on the way to it, except in the first year of
which it holds an index. -/
theorem hasIndex_iff (m : Month) :
    HasIndex m ↔ IsInt32 m.index ∧ ¬ (m.year = -178956971 ∧ 5 ≤ m.number) := by
  have hone := m.one_le
  have hle := m.le_twelve
  have hindex : m.index = m.year * 12 + (m.number - 1) := rfl
  constructor
  · rintro ⟨hmonths, hword⟩
    refine ⟨hword, ?_⟩
    simp only [IsInt32, maxInt32] at hmonths
    omega
  · rintro ⟨hword, hnot⟩
    refine ⟨?_, hword⟩
    simp only [IsInt32, maxInt32] at hword ⊢
    omega

/-- Nothing wraps around where words hold the numbers on the way. -/
theorem toInt_index (h : HasIndex m) :
    (ofMonth m).year.toInt = m.year ∧ ((ofMonth m).year * 12).toInt = m.year * 12 ∧
      (ofMonth m).index.toInt = m.index := by
  have hmonths := h.months
  have hyear : IsInt32 m.year := by
    simp only [IsInt32, maxInt32] at hmonths ⊢
    omega
  refine ⟨toInt_year hyear, ?_, ?_⟩
  · rw [ofMonth, ← toInt_ofInt hmonths, Int32.ofInt_mul]
    rfl
  · rw [index_ofMonth, toInt_ofInt h.index]

/-- Words move like months while a word holds the index. -/
theorem addMonths_ofMonth {n : Int32} (h : IsInt32 (m.index + n.toInt)) :
    (ofMonth m).addMonths n = ofMonth (m.addMonths n.toInt) := by
  have hindex : ((ofMonth m).index + n).toInt = m.index + n.toInt := by
    rw [index_ofMonth, ← toInt_ofInt h, Int32.ofInt_add, Int32.ofInt_toInt]
  have hnumber : 0 ≤ (m.index + n.toInt) % 12 := by omega
  have hword : Int32.ofInt ((m.index + n.toInt) % 12) + 1 =
      Int32.ofNat (((m.index + n.toInt) % 12).toNat + 1) := by
    rw [Int32.ofNat_add, ← Int32.ofInt_eq_ofNat, Int.toNat_of_nonneg hnumber]
    rfl
  simp only [addMonths, hindex, hword, Int32.toUInt32_ofNat']
  rfl

/-- Words are as far from each other as their months while a word holds the distance. -/
theorem toInt_monthsUntil_ofMonth (h : IsInt32 (a.monthsUntil b)) :
    ((ofMonth a).monthsUntil (ofMonth b)).toInt = a.monthsUntil b := by
  rw [monthsUntil, index_ofMonth, index_ofMonth, ← Int32.ofInt_sub]
  exact toInt_ofInt h

/-- The order of words is that of their months. -/
theorem ofMonth_lt_iff (ha : IsInt32 a.year) (hb : IsInt32 b.year) :
    ofMonth a < ofMonth b ↔ a < b := by
  rw [lt_def, Month.lt_def, Int32.lt_iff_toInt_lt, ← Int32.toInt_inj, UInt32.lt_iff_toNat_lt,
    toInt_year ha, toInt_year hb, toNat_number, toNat_number]

end MonthWords

/-! ### The arithmetic of months -/

namespace Month

/-- Moving by months is a group action of the integers that `monthsUntil` inverts, the months after
and before are one step away, and a month is earlier exactly if the way to the other is positive. In
words the same months and numbers come out, if a word holds the index that is reached, the number of
months, or the years that are compared. Where words hold the index of a month nothing wraps around
on the way to it, except in some months of the year -178956971. -/
theorem moving_is_addition (a b : Month) (i j : Int) :
    (1 ≤ (a.addMonths i).number ∧ (a.addMonths i).number ≤ 12) ∧
    (a.addMonths i).addMonths j = a.addMonths (i + j) ∧
    a.monthsUntil (a.addMonths i) = i ∧ a.addMonths (a.monthsUntil b) = b ∧
    a.succ = a.addMonths 1 ∧ a.pred = a.addMonths (-1) ∧ a.succ.pred = a ∧ a.pred.succ = a ∧
    (a < b ↔ 0 < a.monthsUntil b) ∧
    let x := MonthWords.ofMonth a
    let y := MonthWords.ofMonth b
    (∀ n : Int32, n.toInt = i → IsInt32 (a.index + i) →
      x.addMonths n = .ofMonth (a.addMonths i)) ∧
    (IsInt32 (a.monthsUntil b) → (x.monthsUntil y).toInt = a.monthsUntil b) ∧
    x.succ = .ofMonth a.succ ∧ x.pred = .ofMonth a.pred ∧
    (IsInt32 a.year → IsInt32 b.year → (x < y ↔ a < b)) ∧
    (MonthWords.HasIndex a ↔ IsInt32 a.index ∧ ¬ (a.year = -178956971 ∧ 5 ≤ a.number)) ∧
    (MonthWords.HasIndex a → x.year.toInt = a.year ∧ (x.year * 12).toInt = a.year * 12 ∧
      x.index.toInt = a.index) := by
  refine ⟨⟨(a.addMonths i).one_le, (a.addMonths i).le_twelve⟩, addMonths_addMonths a i j,
    monthsUntil_addMonths a i, addMonths_monthsUntil a b, succ_eq_addMonths a, pred_eq_addMonths a,
    pred_succ a, succ_pred a, lt_iff_monthsUntil_pos, ?_, MonthWords.toInt_monthsUntil_ofMonth,
    MonthWords.succ_ofMonth a, MonthWords.pred_ofMonth a, MonthWords.ofMonth_lt_iff,
    MonthWords.hasIndex_iff a, MonthWords.toInt_index⟩
  rintro n rfl h
  exact MonthWords.addMonths_ofMonth h

/-- From the December before the year 0 a word moves by the largest number that it holds. -/
theorem moving_is_addition_at_turn_of_year :
    let a : Month := { year := -1, number := 12 }
    let b : Month := { year := 178956970, number := 7 }
    let x := MonthWords.ofMonth a
    let y := MonthWords.ofMonth b
    (2147483647 : Int32).toInt = 2147483647 ∧ IsInt32 (a.index + 2147483647) ∧
    IsInt32 (a.monthsUntil b) ∧ IsInt32 a.year ∧ IsInt32 b.year ∧
    x.addMonths 2147483647 = y ∧ (x.monthsUntil y).toInt = 2147483647 ∧
    x.succ = .ofMonth (.january 0) ∧ x < y ∧ x.index.toInt = -1 := by
  intro a b x y
  obtain ⟨-, -, -, -, -, -, -, -, -, hmove, huntil, hsucc, -, hlt, hroom, hwraps⟩ :=
    moving_is_addition a b 2147483647 0
  have hindex : IsInt32 (a.index + 2147483647) := by decide
  have hdistance : IsInt32 (a.monthsUntil b) := by decide
  have hfirst : IsInt32 a.year := by decide
  have hsecond : IsInt32 b.year := by decide
  refine ⟨by decide, hindex, hdistance, hfirst, hsecond, ?_, ?_, ?_, ?_, ?_⟩
  · exact hmove 2147483647 (by decide) hindex
  · exact huntil hdistance
  · exact hsucc
  · exact (hlt hfirst hsecond).mpr (by decide)
  · exact (hwraps (hroom.mpr (by decide))).2.2

end Month
end UsageReports
