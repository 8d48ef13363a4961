import Mathlib.Data.List.Nodup
import Mathlib.Data.String.Basic
import UsageReports.Proofs.Calendar.Interval
import UsageReports.Proofs.Data.Sorting
import UsageReports.Proofs.Store.Lookup

/-!
# Listing records

Stores that have the same record under each key hold the same records and list them alike, whatever
came to them in whatever order.
-/

namespace UsageReports

namespace Record.Key

/-- Keys are ordered as their records are listed. -/
instance : LE Record.Key := ⟨fun a b ↦ a.before b = true⟩

instance : DecidableLE Record.Key := fun a b ↦ inferInstanceAs (Decidable (a.before b = true))

theorem le_iff {a b : Record.Key} :
    a ≤ b ↔ a.provider < b.provider ∨ a.provider = b.provider ∧
      (a.reportType < b.reportType ∨ a.reportType = b.reportType ∧ a.month ≤ b.month) := by
  change a.before b = true ↔ _
  simp [before]

instance : Std.IsLinearOrder Record.Key where
  le_refl a := le_iff.mpr (Or.inr ⟨rfl, Or.inr ⟨rfl, Month.le_refl _⟩⟩)
  le_trans a b c hab hbc := by
    rw [le_iff] at hab hbc ⊢
    grind [Month.le_trans]
  le_antisymm a b hab hba := by
    rw [le_iff] at hab hba
    have hmonth := @Month.le_antisymm a.month b.month
    cases a
    cases b
    grind
  le_total a b := by
    rw [le_iff, le_iff]
    grind [Month.le_total]

end Record.Key

namespace Records

variable {s s' : Records}

/-- A key is that of a stored record when something is found under it. -/
theorem mem_keys_iff (s : Records) (k : Record.Key) :
    k ∈ s.entries.map Record.key ↔ s.get? k ≠ none := by
  rw [get?, Keyed.get?, ne_eq, List.find?_eq_none]
  simp

/-- Stores with the same record under each key hold the same records. -/
theorem perm_of_get?_eq (h : s.Distinct) (h' : s'.Distinct) (hsame : ∀ k, s.get? k = s'.get? k) :
    s.entries.Perm s'.entries := by
  apply (List.perm_ext_iff_of_nodup (List.Nodup.of_map _ h) (List.Nodup.of_map _ h')).mpr
  intro r
  have hr := get?_eq_some_iff h r.key r
  have hr' := get?_eq_some_iff h' r.key r
  rw [hsame, hr'] at hr
  simpa using hr.symm

/-- Records of one provider and report type have months of their own. -/
theorem nodup_months (h : s.Distinct) (provider reportType : String) :
    ((s.entries.filter fun r ↦ r.provider = provider && r.reportType = reportType).map
      Record.month).Nodup := by
  rw [List.Nodup, List.pairwise_map, List.pairwise_filter]
  refine (List.pairwise_map.mp h).imp ?_
  intro a b hne ha hb he
  simp only [Bool.and_eq_true, decide_eq_true_eq] at ha hb
  exact hne (by rw [Record.key, Record.key, ha.1, ha.2, hb.1, hb.2, he])

/-- Stores with the same records list those of a provider and report type alike. -/
theorem existing_eq_of_perm (h : s.Distinct) (hp : s.entries.Perm s'.entries)
    (provider reportType : String) :
    s.existing provider reportType = s'.existing provider reportType :=
  mergeSort_key_eq_of_perm Record.month (nodup_months h provider reportType) (hp.filter _)

/-- Stores with the same records list all of them alike. -/
theorem all_eq_of_perm (h : s.Distinct) (hp : s.entries.Perm s'.entries) : s.all = s'.all := by
  have hsort (t : Records) : t.all = t.entries.mergeSort fun a b ↦ a.key ≤ b.key := by
    rw [all]
    congr 1
    funext a b
    exact Bool.decide_eq_true.symm
  rw [hsort, hsort]
  exact mergeSort_key_eq_of_perm Record.key h hp

end Records
end UsageReports
