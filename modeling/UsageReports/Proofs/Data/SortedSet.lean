import UsageReports.Data.Sorted
import UsageReports.Proofs.Data.Sorting

/-!
# Laws of sorted sets

A sorted set has the members of the list it is made from, each once, in strictly increasing order.
-/

namespace UsageReports

section LastOfEach

variable {α κ : Type} [DecidableEq κ]

/-- What is kept of entries was among them. -/
theorem mem_of_mem_lastOfEach (key : α → κ) (items : List α) (a : α)
    (h : a ∈ lastOfEach key items) : a ∈ items := by
  fun_induction lastOfEach key items with
  | case1 => exact h
  | case2 => exact h
  | case3 b c rest _ ih => exact List.mem_cons_of_mem b (ih h)
  | case4 b c rest _ ih =>
    rcases List.mem_cons.mp h with rfl | h
    · exact List.mem_cons_self
    · exact List.mem_cons_of_mem b (ih h)

/-- Every key that occurs is kept. -/
theorem key_mem_lastOfEach (key : α → κ) (items : List α) (k : κ) (h : k ∈ items.map key) :
    k ∈ (lastOfEach key items).map key := by
  fun_induction lastOfEach key items with
  | case1 => exact h
  | case2 => exact h
  | case3 b c rest he ih =>
    rcases List.mem_cons.mp h with rfl | h
    · rw [he] at ih ⊢
      exact ih List.mem_cons_self
    · exact ih h
  | case4 b c rest _ ih =>
    rcases List.mem_cons.mp h with rfl | h
    · exact List.mem_cons_self
    · exact List.mem_cons_of_mem _ (ih h)

/-- Of entries in the order of their keys, those kept are in the strict order. -/
theorem pairwise_lastOfEach [LE κ] [Std.IsLinearOrder κ] (key : α → κ) (items : List α)
    (h : items.Pairwise (key · ≤ key ·)) :
    (lastOfEach key items).Pairwise fun a b ↦ key a ≤ key b ∧ key a ≠ key b := by
  fun_induction lastOfEach key items with
  | case1 => exact List.Pairwise.nil
  | case2 => exact List.pairwise_singleton _ _
  | case3 b c rest _ ih => exact ih (List.pairwise_cons.mp h).2
  | case4 b c rest hne ih =>
    obtain ⟨hb, hrest⟩ := List.pairwise_cons.mp h
    refine List.pairwise_cons.mpr ⟨?_, ih hrest⟩
    intro x hx
    have hx := mem_of_mem_lastOfEach key (c :: rest) x hx
    refine ⟨hb x hx, ?_⟩
    intro he
    have hcx : key c ≤ key x := by
      rcases List.mem_cons.mp hx with rfl | hx
      · exact Std.le_refl _
      · exact (List.pairwise_cons.mp hrest).1 x hx
    exact hne (Std.le_antisymm (hb c List.mem_cons_self) (he ▸ hcx))

/-- Sorting by keys leaves each key once, in the strict order. -/
theorem pairwise_sortedBy [LE κ] [DecidableLE κ] [Std.IsLinearOrder κ] (key : α → κ)
    (items : List α) : (sortedBy key items).Pairwise fun a b ↦ key a ≤ key b ∧ key a ≠ key b :=
  pairwise_lastOfEach key _ (pairwise_mergeSort_key key items)

/-- Where successive keys differ every entry is kept. -/
theorem lastOfEach_eq_self {key : α → κ} {items : List α}
    (h : items.Pairwise (key · ≠ key ·)) : lastOfEach key items = items := by
  fun_induction lastOfEach key items with
  | case1 => rfl
  | case2 => rfl
  | case3 b c rest he ih => exact absurd he ((List.pairwise_cons.mp h).1 c List.mem_cons_self)
  | case4 b c rest _ ih => rw [ih (List.pairwise_cons.mp h).2]

variable [LE κ] [DecidableLE κ] [Std.IsLinearOrder κ] (key : α → κ) {items : List α}

/-- Entries with distinct keys are only rearranged. -/
theorem sortedBy_eq_mergeSort (hd : (items.map key).Nodup) :
    sortedBy key items = items.mergeSort fun a b ↦ key a ≤ key b :=
  lastOfEach_eq_self ((pairwise_mergeSort_key_of_nodup key hd).imp And.right)

/-- Entries in the strict order of their keys stay as they are. -/
theorem sortedBy_eq_self (h : items.Pairwise fun a b ↦ key a ≤ key b ∧ key a ≠ key b) :
    sortedBy key items = items := by
  rw [sortedBy_eq_mergeSort key (List.pairwise_map.mpr (h.imp And.right))]
  exact List.mergeSort_of_pairwise (h.imp fun hab ↦ decide_eq_true hab.1)

end LastOfEach

variable {α : Type} [DecidableEq α] [LE α] [DecidableLE α]

/-- A sorted set has the members of its list. -/
theorem mem_sortedSet (items : List α) (a : α) : a ∈ sortedSet items ↔ a ∈ items := by
  constructor
  · intro h
    exact List.mem_mergeSort.mp (mem_of_mem_lastOfEach id _ a h)
  · intro h
    have hs : a ∈ items.mergeSort fun a b ↦ a ≤ b := List.mem_mergeSort.mpr h
    have hk := key_mem_lastOfEach id _ a (by rwa [List.map_id])
    rwa [List.map_id] at hk

/-- A sorted set is in the strict order. -/
theorem pairwise_sortedSet [Std.IsLinearOrder α] (items : List α) :
    (sortedSet items).Pairwise fun a b ↦ a ≤ b ∧ a ≠ b :=
  pairwise_sortedBy id items

/-- A sorted set has each member once. -/
theorem nodup_sortedSet [Std.IsLinearOrder α] (items : List α) : (sortedSet items).Nodup :=
  (pairwise_sortedSet items).imp And.right

end UsageReports
