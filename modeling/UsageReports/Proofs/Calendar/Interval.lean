import UsageReports.Calendar.Month

/-!
# Intervals of months

Months are linearly ordered, and the months between two months are exactly those of the interval, in
strictly increasing order. An interval grows at its end by the month that follows it.
-/

namespace UsageReports.Month

theorem le_refl (a : Month) : a ≤ a := le_iff_index_le.mpr (Int.le_refl _)

theorem le_trans {a b c : Month} (hab : a ≤ b) (hbc : b ≤ c) : a ≤ c :=
  le_iff_index_le.mpr (Int.le_trans (le_iff_index_le.mp hab) (le_iff_index_le.mp hbc))

theorem le_total (a b : Month) : a ≤ b ∨ b ≤ a := by
  rw [le_iff_index_le, le_iff_index_le]
  exact Int.le_total _ _

theorem le_antisymm {a b : Month} (hab : a ≤ b) (hba : b ≤ a) : a = b :=
  eq_of_index_eq (Int.le_antisymm (le_iff_index_le.mp hab) (le_iff_index_le.mp hba))

theorem le_succ_of_le {a b : Month} (h : a ≤ b) : a ≤ b.succ := by
  rw [le_iff_index_le] at h ⊢
  rw [index_succ]
  omega

instance : Std.IsLinearOrder Month where
  le_refl := le_refl
  le_trans _ _ _ := le_trans
  le_antisymm _ _ := le_antisymm
  le_total := le_total

/-- Successive months are those whose place is in reach. -/
theorem mem_successive (m : Month) (n : Nat) (x : Month) :
    x ∈ m.successive n ↔ m.index ≤ x.index ∧ x.index < m.index + n := by
  induction n generalizing m with
  | zero =>
    simp only [successive, List.not_mem_nil, false_iff]
    omega
  | succ n ih =>
    rw [successive, List.mem_cons, ih, index_succ]
    constructor
    · rintro (rfl | h) <;> omega
    · intro h
      by_cases hx : x.index = m.index
      · exact Or.inl (eq_of_index_eq hx)
      · exact Or.inr (by omega)

/-- Successive months are strictly increasing. -/
theorem pairwise_successive (m : Month) (n : Nat) : (m.successive n).Pairwise (· < ·) := by
  induction n generalizing m with
  | zero => exact List.Pairwise.nil
  | succ n ih =>
    refine List.pairwise_cons.mpr ⟨?_, ih m.succ⟩
    intro x hx
    have hle := ((mem_successive m.succ n x).mp hx).1
    rw [index_succ] at hle
    exact lt_iff_index_lt.mpr (by omega)

/-- One more successive month stands at the end. -/
theorem successive_concat (m last : Month) (n : Nat) (h : last.index = m.index + n) :
    m.successive (n + 1) = m.successive n ++ [last] := by
  induction n generalizing m with
  | zero =>
    have he : last = m := eq_of_index_eq (by omega)
    rw [he]
    rfl
  | succ n ih =>
    have hs := ih m.succ (by rw [index_succ]; omega)
    rw [successive, hs]
    rfl

@[simp] theorem length_successive (m : Month) (n : Nat) : (m.successive n).length = n := by
  induction n generalizing m with
  | zero => rfl
  | succ n ih => rw [successive, List.length_cons, ih]

/-- The months between two months are those of the interval. -/
theorem mem_between (first last x : Month) : x ∈ between first last ↔ first ≤ x ∧ x ≤ last := by
  rw [between, mem_successive, le_iff_index_le, le_iff_index_le]
  simp only [monthsUntil]
  omega

/-- The months between two months are strictly increasing. -/
theorem pairwise_between (first last : Month) : (between first last).Pairwise (· < ·) :=
  pairwise_successive _ _

theorem ne_of_lt {a b : Month} (h : a < b) : a ≠ b := by
  rintro rfl
  rw [lt_iff_index_lt] at h
  omega

/-- No month is twice between two months. -/
theorem nodup_between (first last : Month) : (between first last).Nodup :=
  (pairwise_between first last).imp ne_of_lt

@[simp] theorem between_self (m : Month) : between m m = [m] := by
  simp only [between, monthsUntil, Int.sub_self]
  rfl

theorem lt_iff_count_le_zero {first last : Month} :
    last < first ↔ first.monthsUntil last + 1 ≤ 0 := by
  rw [lt_iff_index_lt, monthsUntil]
  omega

theorem between_eq_nil {first last : Month} (h : last < first) : between first last = [] := by
  rw [between, Int.toNat_of_nonpos (lt_iff_count_le_zero.mp h)]
  rfl

/-- The months of an interval are its first and those from the month after it. -/
theorem between_eq_cons {first last : Month} (h : first ≤ last) :
    between first last = first :: between first.succ last := by
  rw [le_iff_index_le] at h
  have hcount :
      (first.monthsUntil last + 1).toNat = (first.succ.monthsUntil last + 1).toNat + 1 := by
    simp only [monthsUntil, index_succ]
    omega
  rw [between, hcount]
  rfl

theorem length_between (first last : Month) :
    ((between first last).length : Int) = max 0 (first.monthsUntil last + 1) := by
  rw [between, length_successive]
  omega

/-- An interval grows by the month after its last. -/
theorem between_succ {first last : Month} (h : first ≤ last) :
    between first last.succ = between first last ++ [last.succ] := by
  have hle := le_iff_index_le.mp h
  have hn : (first.monthsUntil last.succ + 1).toNat = (first.monthsUntil last + 1).toNat + 1 := by
    simp only [monthsUntil, index_succ]
    omega
  rw [between, hn, successive_concat _ last.succ]
  · rfl
  · simp only [monthsUntil, index_succ]
    omega

/-- A month is up to the clamped end when it is up to the bound and up to the requested end. -/
theorem le_clampEnd (requested : Option Month) (bound m : Month) :
    m ≤ clampEnd requested bound ↔ m ≤ bound ∧ ∀ stop ∈ requested, m ≤ stop := by
  cases requested with
  | none => simp [clampEnd]
  | some stop =>
    simp only [clampEnd, Option.mem_some_iff, forall_eq']
    split
    · next h => exact ⟨fun hm ↦ ⟨le_trans hm h, hm⟩, And.right⟩
    · next h =>
      have hb : bound ≤ stop := (le_total bound stop).resolve_right h
      exact ⟨fun hm ↦ ⟨hm, le_trans hm hb⟩, And.left⟩

end UsageReports.Month
