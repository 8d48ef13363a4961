import UsageReports.Proofs.Harvest.Course
import UsageReports.Proofs.Harvest.Filing

/-!
# Taking in what was fetched

Whatever list of records a fetch brings, a run emits for its range one record for each month, in the
order of the months. What stands for a month depends only on the records of the range's report type
and of that month, and of those on the last one.
-/

namespace UsageReports

/-- The last record of a report type and a month, and what is returned after it. -/
theorem exists_of_lastFor {t : String} {m : Month} {returned : List Record} {x : Record}
    (h : lastFor t m returned = some x) :
    ∃ before after, returned = before ++ x :: after ∧
      ∀ y ∈ after, y.reportType = t → y.month ≠ m := by
  obtain ⟨earlier, hfilter⟩ := List.getLast?_eq_some_iff.mp h
  obtain ⟨front, rest, rfl, -, hrest⟩ := List.filter_eq_append_iff.mp hfilter
  obtain ⟨skipped, after, rfl, -, -, hafter⟩ := List.filter_eq_cons_iff.mp hrest
  refine ⟨front ++ skipped, after, by simp, ?_⟩
  intro y hy htype hmonth
  simpa [htype, hmonth] using List.filter_eq_nil_iff.mp hafter y hy

/-- Without a last record of a report type and a month there is none. -/
theorem month_ne_of_lastFor_eq_none {t : String} {m : Month} {returned : List Record}
    (h : lastFor t m returned = none) {y : Record} (hy : y ∈ returned) (htype : y.reportType = t) :
    y.month ≠ m := by
  intro hmonth
  have hnone := List.filter_eq_nil_iff.mp (List.getLast?_eq_none_iff.mp h) y hy
  simp [htype, hmonth] at hnone

namespace Range

/-- Which record stands for a month of a range, where these were returned. -/
inductive Stands (range : Range) (provider : String) (returned : List Record) (m : Month) :
    Record → Prop
  /-- The last one that was returned for the month, in the provider's name. -/
  | last {before after : List Record} {x : Record} (split : returned = before ++ x :: after)
      (reportType : x.reportType = range.reportType) (month : x.month = m)
      (later : ∀ y ∈ after, y.reportType = range.reportType → y.month ≠ m) :
      Stands range provider returned m { x with provider }
  /-- A placeholder, where none was returned for the month. -/
  | missing (absent : ∀ y ∈ returned, y.reportType = range.reportType → y.month ≠ m) :
      Stands range provider returned m
        { provider, reportType := range.reportType, month := m, payload := none
          failure := some "no record returned for month", attempts := 1 }

variable (range : Range) (provider : String)

theorem stands_report (returned : List Record) (m : Month) :
    range.Stands provider returned m (range.report provider returned m) := by
  unfold report
  split
  · next x hx =>
    obtain ⟨before, after, hsplit, hlater⟩ := exists_of_lastFor hx
    obtain ⟨htype, hmonth⟩ := Prod.mk.inj (cell_of_lastFor hx).2
    exact .last hsplit htype hmonth hlater
  · next hnone => exact .missing fun y hy ↦ month_ne_of_lastFor_eq_none hnone hy

/-- What is filed for each month of a range is what stands for it. -/
theorem forall₂_stands_filed (returned : List Record) :
    List.Forall₂ (range.Stands provider returned) range.months (range.filed provider returned) := by
  rw [filed_eq, List.forall₂_map_right_iff, List.forall₂_same]
  exact fun m _ ↦ range.stands_report provider returned m

/-- The last record of a cell that a range spans is one of those that the range spans. -/
theorem lastFor_filter_spans {m : Month} (hm : m ∈ range.months) (returned : List Record) :
    lastFor range.reportType m (returned.filter fun x ↦ range.Spans x.reportType x.month) =
      lastFor range.reportType m returned := by
  obtain ⟨hfirst, hlast⟩ := (Month.mem_between range.first range.last m).mp hm
  unfold lastFor
  rw [List.filter_filter]
  congr 1
  apply List.filter_congr
  intro x _
  by_cases hx : x.reportType = range.reportType ∧ x.month = m
  · simp [Spans, hx.1, hx.2, hfirst, hlast]
  · simpa using fun htype hmonth ↦ absurd ⟨htype, hmonth⟩ hx

/-- What is filed depends on no record that the range does not span. -/
theorem filed_filter_spans (returned : List Record) :
    range.filed provider (returned.filter fun x ↦ range.Spans x.reportType x.month) =
      range.filed provider returned := by
  rw [filed_eq, filed_eq]
  apply List.map_congr_left
  intro m hm
  rw [report, report, lastFor_filter_spans range hm]

end Range

namespace Run

/-- A run that takes in any records for a range emits one record for each month of the range, in
ascending order: the last one that was returned for the month, in the name of its provider, or a
placeholder where none was. Records of another report type, or of a month outside the range, have no
part in what becomes of the run. -/
theorem accept_emits_each_month {r : Run} (hr : r.receiving = true) (task : FetchTask)
    (returned : List Record) :
    (∃ filed, (r.accept task returned).emitted = r.emitted ++ filed ∧
      List.Forall₂ (task.range.Stands r.provider returned) task.range.months filed) ∧
    (task.range.months.Pairwise (· < ·) ∧
      ∀ m, m ∈ task.range.months ↔ task.range.first ≤ m ∧ m ≤ task.range.last) ∧
    ∀ other : List Record,
      (other.filter fun x ↦ task.range.Spans x.reportType x.month) =
          (returned.filter fun x ↦ task.range.Spans x.reportType x.month) →
        r.accept task other = r.accept task returned := by
  refine ⟨⟨task.range.filed r.provider returned, (takes_accept hr task returned).emitted,
    task.range.forall₂_stands_filed r.provider returned⟩,
    ⟨Month.pairwise_between _ _, Month.mem_between _ _⟩, ?_⟩
  intro other hsame
  have hfiled : task.range.filed r.provider other = task.range.filed r.provider returned := by
    rw [← Range.filed_filter_spans, hsame, Range.filed_filter_spans]
  simp only [accept, measure, hfiled]

/-- For the first of two months two records are returned, the later one a failure in another name;
for the second only one of another report type. A third month was not asked for. -/
theorem accept_emits_each_month_of_two :
    let january : Month := .january 2020
    let r := ofPlan {} "p" []
    let task : FetchTask := .fresh ⟨"DR", january, january.succ⟩
    let late : Record := ⟨"q", "DR", january, some .null, some "late", 7⟩
    let wanted : List Record := [.success "p" "DR" january (.int 1), late]
    let returned : List Record :=
      .success "p" "DR" january.succ.succ .null :: .success "p" "TR" january.succ .null :: wanted
    r.receiving = true ∧
      ((r.accept task returned).emitted.map fun x ↦ (x.cell, x.failure, x.attempts)) =
        [(("DR", january), some "late", 7),
          (("DR", january.succ), some "no record returned for month", 1)] ∧
      (∃ filed, (r.accept task returned).emitted = r.emitted ++ filed ∧
        List.Forall₂ (task.range.Stands r.provider returned) task.range.months filed) ∧
      r.accept task wanted = r.accept task returned := by
  intro january r task late wanted returned
  obtain ⟨hfiled, -, hsame⟩ := accept_emits_each_month (r := r) rfl task returned
  exact ⟨rfl, by decide, hfiled, hsame wanted rfl⟩

end Run
end UsageReports
