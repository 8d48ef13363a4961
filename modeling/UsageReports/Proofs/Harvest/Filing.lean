import UsageReports.Harvest.Reply
import UsageReports.Proofs.Plan.Coverage

/-!
# What replies are filed as

A fetched range is filed month by month: under a month stands the last record that was returned for
it, in the name of the run's provider, or a placeholder where none was. Whatever was returned, the
cells of the filed records are those of the range.
-/

namespace UsageReports

/-- The cell of a record: its month, with its report type. -/
def Record.cell (r : Record) : String × Month := (r.reportType, r.month)

/-- The last of some records that is of a report type and a month. -/
def lastFor (reportType : String) (m : Month) (returned : List Record) : Option Record :=
  (returned.filter fun r ↦ r.reportType = reportType && r.month = m).getLast?

theorem lastFor_cons (t : String) (m : Month) (r : Record) (rest : List Record) :
    lastFor t m (r :: rest) =
      (lastFor t m rest).or (if r.reportType = t ∧ r.month = m then some r else none) := by
  unfold lastFor
  rw [List.filter_cons]
  by_cases h : r.reportType = t ∧ r.month = m
  · rw [if_pos h, if_pos (by simpa using h), List.getLast?_cons]
    cases (rest.filter fun r ↦ r.reportType = t && r.month = m).getLast? <;> rfl
  · rw [if_neg h, if_neg (by simpa using h), Option.or_none]

theorem cell_of_lastFor {t : String} {m : Month} {returned : List Record} {r : Record}
    (h : lastFor t m returned = some r) : r ∈ returned ∧ r.cell = (t, m) := by
  obtain ⟨hr, hp⟩ := List.mem_filter.mp (List.mem_of_getLast? h)
  simp only [Bool.and_eq_true, decide_eq_true_eq] at hp
  exact ⟨hr, Prod.ext hp.1 hp.2⟩

namespace Range

/-- The record under which a month of a fetched range is filed. -/
def report (range : Range) (provider : String) (returned : List Record) (m : Month) : Record :=
  match lastFor range.reportType m returned with
  | some r => { r with provider }
  | none => .placeholder provider range.reportType m missingMonth

@[simp] theorem cell_report (range : Range) (provider : String) (returned : List Record)
    (m : Month) : (range.report provider returned m).cell = (range.reportType, m) := by
  unfold report
  split
  · next r hr => exact (cell_of_lastFor hr).2
  · rfl

@[simp] theorem provider_report (range : Range) (provider : String) (returned : List Record)
    (m : Month) : (range.report provider returned m).provider = provider := by
  unfold report
  split <;> rfl

/-- Within the months of a range a record is wanted for its report type. -/
theorem wants_iff {range : Range} {m : Month} (hm : m ∈ range.months) {r : Record}
    (hr : r.month = m) : range.wants r = true ↔ r.reportType = range.reportType := by
  obtain ⟨hfirst, hlast⟩ := (Month.mem_between range.first range.last m).mp hm
  subst hr
  simp only [wants, Bool.and_eq_true, decide_eq_true_eq]
  exact ⟨fun h ↦ h.1.1, fun h ↦ ⟨⟨h, hfirst⟩, hlast⟩⟩

/-- What is kept for a month is the last record returned for it. -/
private theorem get?_foldl_byMonth (range : Range) (provider : String) {m : Month}
    (hm : m ∈ range.months) (returned kept : List Record) :
    Keyed.get? Record.month m
      (returned.foldl
        (fun kept r ↦
          if range.wants r then Keyed.put Record.month { r with provider } kept else kept) kept) =
      ((lastFor range.reportType m returned).map fun r ↦ { r with provider }).or
        (Keyed.get? Record.month m kept) := by
  induction returned generalizing kept with
  | nil => rfl
  | cons r rest ih =>
    rw [List.foldl_cons, ih, lastFor_cons]
    by_cases hr : r.reportType = range.reportType ∧ r.month = m
    · have hput : Keyed.get? Record.month m (Keyed.put Record.month { r with provider } kept) =
          some { r with provider } := by
        rw [← hr.2]
        exact Keyed.get?_put_self Record.month { r with provider } kept
      rw [if_pos hr, if_pos ((wants_iff hm hr.2).mpr hr.1), hput]
      cases lastFor range.reportType m rest <;> rfl
    · have hkeep : Keyed.get? Record.month m
          (if range.wants r then Keyed.put Record.month { r with provider } kept else kept) =
            Keyed.get? Record.month m kept := by
        split
        · next hw =>
          apply Keyed.get?_put_of_ne
          intro hrm
          exact hr ⟨(wants_iff hm hrm).mp hw, hrm⟩
        · rfl
      rw [if_neg hr, hkeep, Option.or_none]

/-- A fetched range is filed month by month. -/
theorem filed_eq (range : Range) (provider : String) (returned : List Record) :
    range.filed provider returned = range.months.map (range.report provider returned) := by
  apply List.map_congr_left
  intro m hm
  have hget := get?_foldl_byMonth range provider hm returned []
  change (Keyed.get? Record.month m (returned.foldl _ [])).getD _ = _
  rw [hget, report]
  cases lastFor range.reportType m returned <;> rfl

/-- The cells of the filed records are those of the range. -/
theorem cells_filed (range : Range) (provider : String) (returned : List Record) :
    (range.filed provider returned).map Record.cell = range.cells := by
  rw [filed_eq, List.map_map]
  exact List.map_congr_left fun m _ ↦ cell_report range provider returned m

theorem provider_of_mem_filed {range : Range} {provider : String} {returned : List Record}
    {r : Record} (h : r ∈ range.filed provider returned) : r.provider = provider := by
  rw [filed_eq] at h
  obtain ⟨m, -, rfl⟩ := List.mem_map.mp h
  exact provider_report range provider returned m

/-- The cells of the placeholders are those of the range. -/
theorem cells_placeholders (range : Range) (provider reason : String) :
    (range.placeholders provider reason).map Record.cell = range.cells := by
  rw [placeholders, List.map_map]
  rfl

theorem provider_of_mem_placeholders {range : Range} {provider reason : String} {r : Record}
    (h : r ∈ range.placeholders provider reason) : r.provider = provider := by
  obtain ⟨m, -, rfl⟩ := List.mem_map.mp h
  rfl

end Range
end UsageReports
