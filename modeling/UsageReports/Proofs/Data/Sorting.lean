/-!
# Sorting by keys

Sorted by their keys, entries are in the order of the keys. If the keys are distinct the order is
strict, and there is only one way to bring the entries into it.
-/

namespace UsageReports

variable {α κ : Type} [LE κ] [DecidableLE κ] [Std.IsLinearOrder κ] (key : α → κ)

/-- Sorted entries are in the order of their keys. -/
theorem pairwise_mergeSort_key (items : List α) :
    (items.mergeSort fun a b ↦ key a ≤ key b).Pairwise (key · ≤ key ·) := by
  have hs : (items.mergeSort fun a b ↦ key a ≤ key b).Pairwise
      fun a b ↦ decide (key a ≤ key b) = true := by
    apply List.pairwise_mergeSort
    · simpa using fun a b c ↦ Std.le_trans
    · simpa using fun a b ↦ Std.le_total
  exact hs.imp of_decide_eq_true

/-- Sorted entries with distinct keys are in the strict order of their keys. -/
theorem pairwise_mergeSort_key_of_nodup {items : List α} (hd : (items.map key).Nodup) :
    (items.mergeSort fun a b ↦ key a ≤ key b).Pairwise fun a b ↦ key a ≤ key b ∧ key a ≠ key b := by
  have hnodup : ((items.mergeSort fun a b ↦ key a ≤ key b).map key).Nodup :=
    ((List.mergeSort_perm _ _).map key).nodup_iff.mpr hd
  exact (pairwise_mergeSort_key key items).and (List.pairwise_map.mp hnodup)

/-- However entries with distinct keys are arranged, sorted they are the same. -/
theorem mergeSort_key_eq_of_perm {items others : List α} (hd : (items.map key).Nodup)
    (hp : items.Perm others) :
    (items.mergeSort fun a b ↦ key a ≤ key b) = others.mergeSort fun a b ↦ key a ≤ key b := by
  have hsorted : (items.mergeSort fun a b ↦ key a ≤ key b).Perm
      (others.mergeSort fun a b ↦ key a ≤ key b) :=
    (List.mergeSort_perm _ _).trans (hp.trans (List.mergeSort_perm _ _).symm)
  have hd' : (others.map key).Nodup := (hp.map key).nodup_iff.mp hd
  apply hsorted.eq_of_pairwise _ (pairwise_mergeSort_key_of_nodup key hd)
    (pairwise_mergeSort_key_of_nodup key hd')
  intro a b _ _ hab hba
  exact absurd (Std.le_antisymm hab.1 hba.1) hab.2

end UsageReports
