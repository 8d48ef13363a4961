import Mathlib.Data.List.Chain
import UsageReports.Proofs.Calendar.MonthGrammar
import UsageReports.Proofs.Calendar.Moving
import UsageReports.Proofs.Plan.Packed

/-!
# Enumerating an interval of months

The months between two months are found by going from the first to the month after it as long as the
last is not passed. Counted in advance by their indices they are as many, and years and indices of
the calendar are small enough for words of 32 bits.
-/

namespace UsageReports

namespace Month

variable {a b m first last : Month}

/-- The months from `m` on, each one step after the one before, until `last` is passed. A word of 32
bits has to hold the year of each step. -/
inductive Walk (last : Month) : Month → List Month → Prop
  | stop {m : Month} (h : ¬ m ≤ last) : Walk last m []
  | next {m : Month} {months : List Month} (h : m ≤ last) (room : IsInt32 m.succ.year)
      (rest : Walk last m.succ months) : Walk last m (m :: months)

/-- Only one list of months is walked through. -/
theorem Walk.unique {months months' : List Month} (h : Walk last m months)
    (h' : Walk last m months') : months = months' := by
  induction h generalizing months' with
  | stop h =>
    cases h' with
    | stop => rfl
    | next hle => exact absurd hle h
  | next h room rest ih =>
    cases h' with
    | stop hlt => exact absurd h hlt
    | next hle room' rest' => rw [ih rest']

/-- Each month of a walk is followed by the one after it. -/
theorem Walk.isChain {months : List Month} (h : Walk last m months) :
    months.IsChain fun m next ↦ next = m.succ := by
  induction h with
  | stop h => exact .nil
  | next h room rest ih =>
    cases rest with
    | stop h => exact .singleton _
    | next h room rest => exact .cons_cons rfl ih

theorem year_succ (m : Month) : m.year ≤ m.succ.year ∧ m.succ.year ≤ m.year + 1 := by
  unfold succ
  split <;> dsimp only <;> omega

/-- A walk within the calendar ends, with the months of the interval. -/
theorem walk_between (hfirst : firstYear ≤ first.year) (hlast : last.year ≤ lastYear) :
    Walk last first (between first last) := by
  -- By induction on the number of steps that are left.
  induction hcount : (first.monthsUntil last + 1).toNat generalizing first with
  | zero =>
    have hlt : last < first := lt_iff_count_le_zero.mpr (by omega)
    rw [between_eq_nil hlt]
    apply Walk.stop
    rw [le_iff_index_le, Int.not_le]
    exact lt_iff_index_lt.mp hlt
  | succ count ih =>
    rw [monthsUntil] at hcount
    have hle : first ≤ last := le_iff_index_le.mpr (by omega)
    have hyear : first.year ≤ last.year := by
      rw [le_def] at hle
      omega
    have hsucc := year_succ first
    rw [between_eq_cons hle]
    apply Walk.next hle
    · unfold firstYear at hfirst
      unfold lastYear at hlast
      unfold IsInt32 maxInt32
      omega
    · apply ih (by omega)
      rw [monthsUntil, index_succ]
      omega

/-- Whether a word of 32 bits holds all numbers from which the months from `first` to `last` are
counted. -/
structure IsCountable (first last : Month) : Prop where
  years : IsInt32 (first.year * 12) ∧ IsInt32 (last.year * 12)
  indices : IsInt32 first.index ∧ IsInt32 last.index
  distance : IsInt32 (first.monthsUntil last)
  count : IsInt32 (first.monthsUntil last + 1)

/-- The index of a month of the calendar is between those of its first year and after its last. -/
theorem index_bounds (hm : firstYear ≤ m.year ∧ m.year ≤ lastYear) :
    firstYear * 12 ≤ m.year * 12 ∧ m.year * 12 ≤ m.index ∧ m.index < (lastYear + 1) * 12 := by
  have hle := m.le_twelve
  have hone := m.one_le
  unfold index
  omega

theorem isCountable (ha : firstYear ≤ a.year ∧ a.year ≤ lastYear)
    (hb : firstYear ≤ b.year ∧ b.year ≤ lastYear) : IsCountable a b := by
  have hfirst := index_bounds ha
  have hsecond := index_bounds hb
  unfold firstYear lastYear at hfirst hsecond
  constructor <;> unfold IsInt32 maxInt32
  · omega
  · omega
  · rw [monthsUntil]
    omega
  · rw [monthsUntil]
    omega

end Month

namespace Range

/-- A range is one month exactly if it is as long as one. -/
theorem isSingle_iff_length_eq_one {r : Range} (h : r.first ≤ r.last) :
    r.isSingle = true ↔ r.length = 1 := by
  rw [Month.le_iff_index_le] at h
  rw [isSingle, decide_eq_true_eq, length, Month.monthsUntil]
  constructor
  · intro heq
    rw [heq]
    omega
  · intro hlength
    exact Month.eq_of_index_eq (by omega)

end Range

namespace Month

/-- Going from a month of the calendar to another, step by step, ends with exactly the months of the
interval, in order. They are as many as were counted in advance, without overflow of a word, and
none if the second month is the earlier one. A range has as many months as it is long. -/
theorem between_is_interval {year year' : Int} {number number' : Nat} {a b : Month}
    (ha : ofNumbers year number = .ok a) (hb : ofNumbers year' number' = .ok b) :
    (∀ months, Walk b a months ↔ months = between a b) ∧
    (between a b).Pairwise (· < ·) ∧
    (between a b).IsChain (fun m next ↦ next = m.succ) ∧
    (∀ m, m ∈ between a b ↔ a ≤ m ∧ m ≤ b) ∧
    ((between a b).length : Int) = max 0 (a.monthsUntil b + 1) ∧ IsCountable a b ∧
    (b < a ↔ a.monthsUntil b + 1 ≤ 0) ∧ (b < a → between a b = []) ∧
    ∀ r : Range, r.first ≤ r.last →
      r.length = r.months.length ∧ (r.isSingle = true ↔ r.length = 1) := by
  obtain ⟨rfl, -, ha⟩ := ofNumbers_eq_ok_iff.mp ha
  obtain ⟨rfl, -, hb⟩ := ofNumbers_eq_ok_iff.mp hb
  have hwalk : Walk b a (between a b) := walk_between ha.1 hb.2
  refine ⟨?_, pairwise_between a b, hwalk.isChain, mem_between a b, length_between a b,
    isCountable ha hb, lt_iff_count_le_zero, between_eq_nil, ?_⟩
  · intro months
    constructor
    · intro h
      exact h.unique hwalk
    · rintro rfl
      exact hwalk
  · intro r hr
    exact ⟨Range.length_eq_length_months hr, Range.isSingle_iff_length_eq_one hr⟩

/-- From the first month of the calendar to its last. -/
theorem between_is_interval_whole_calendar :
    let a : Month := january firstYear
    let b : Month := { year := lastYear, number := 12 }
    ofNumbers firstYear 1 = .ok a ∧ ofNumbers lastYear 12 = .ok b ∧
    Walk b a (between a b) ∧ (between a b).length = 6291432 ∧
    (∀ m, m ∈ between a b ↔ a ≤ m ∧ m ≤ b) := by
  intro a b
  have ha : ofNumbers firstYear 1 = .ok a := by rfl
  have hb : ofNumbers lastYear 12 = .ok b := by rfl
  obtain ⟨hwalk, -, -, hmem, hlength, -⟩ := between_is_interval ha hb
  refine ⟨ha, hb, (hwalk _).mpr rfl, ?_, hmem⟩
  have hcount : max 0 (a.monthsUntil b + 1) = (6291432 : Nat) := by decide
  exact Int.ofNat_inj.mp (hlength.trans hcount)

end Month
end UsageReports
