import Mathlib.Data.List.Nodup
import UsageReports.Plan.Gap
import UsageReports.Proofs.Calendar.Interval
import UsageReports.Proofs.Data.SortedSet

/-!
# What plans cover

A range covers cells, a cell being a month of a report type. Packing covers what the packed ranges
cover, each cell once, and a plan covers exactly the missing cells of its provider.
-/

namespace UsageReports

/-- The cells of a range: its months, each with its report type. -/
def Range.cells (range : Range) : List (String × Month) := range.months.map (range.reportType, ·)

/-- The cells of some ranges, range by range. -/
def cellsOf (ranges : List Range) : List (String × Month) := ranges.flatMap Range.cells

@[simp] theorem cellsOf_nil : cellsOf [] = [] := rfl

@[simp] theorem cellsOf_cons (range : Range) (ranges : List Range) :
    cellsOf (range :: ranges) = range.cells ++ cellsOf ranges := rfl

@[simp] theorem cellsOf_append (a b : List Range) : cellsOf (a ++ b) = cellsOf a ++ cellsOf b :=
  List.flatMap_append

namespace Range

@[simp] theorem months_single (reportType : String) (m : Month) :
    (single reportType m).months = [m] :=
  Month.between_self m

@[simp] theorem cells_single (reportType : String) (m : Month) :
    (single reportType m).cells = [(reportType, m)] := by
  rw [cells, months_single]
  rfl

theorem mem_cells (range : Range) (t : String) (m : Month) :
    (t, m) ∈ range.cells ↔ t = range.reportType ∧ m ∈ range.months := by
  rw [cells, List.mem_map]
  constructor
  · rintro ⟨x, hx, he⟩
    obtain ⟨rfl, rfl⟩ := Prod.mk.inj he
    exact ⟨rfl, hx⟩
  · rintro ⟨rfl, hm⟩
    exact ⟨m, hm, rfl⟩

/-- Whether a range spans a month of a report type. -/
def Spans (range : Range) (t : String) (m : Month) : Prop :=
  range.reportType = t ∧ range.first ≤ m ∧ m ≤ range.last

instance (range : Range) (t : String) (m : Month) : Decidable (range.Spans t m) :=
  inferInstanceAs (Decidable (_ ∧ _))

theorem spans_iff (range : Range) (t : String) (m : Month) :
    range.Spans t m ↔ (t, m) ∈ range.cells := by
  rw [mem_cells, months, Month.mem_between, Spans]
  exact and_congr_left' eq_comm

/-- A range has each of its cells once. -/
theorem nodup_cells (range : Range) : range.cells.Nodup := by
  apply (Month.nodup_between range.first range.last).map
  intro a b he
  exact (Prod.mk.inj he).2

/-- Ranges of one month each cover the months they are made from. -/
theorem cellsOf_singles (reportType : String) (months : List Month) :
    cellsOf (months.map (single reportType)) = months.map (reportType, ·) := by
  induction months with
  | nil => rfl
  | cons m ms ih => rw [List.map_cons, cellsOf_cons, cells_single, ih]; rfl

/-- A range month by month covers what the range covers. -/
theorem cellsOf_expand (range : Range) : cellsOf range.expand = range.cells :=
  cellsOf_singles range.reportType range.months

end Range

theorem mem_cellsOf (ranges : List Range) (t : String) (m : Month) :
    (t, m) ∈ cellsOf ranges ↔ ∃ range ∈ ranges, range.Spans t m := by
  simp only [cellsOf, List.mem_flatMap, Range.spans_iff]

/-- A cell is covered as often as there are ranges that span it. -/
theorem count_cellsOf (ranges : List Range) (t : String) (m : Month) :
    (cellsOf ranges).count (t, m) = ranges.countP fun range ↦ range.Spans t m := by
  induction ranges with
  | nil => rfl
  | cons range ranges ih =>
    rw [cellsOf_cons, List.count_append, ih, List.countP_cons, Nat.add_comm]
    congr 1
    by_cases h : range.Spans t m
    · rw [if_pos (decide_eq_true h)]
      exact List.count_eq_one_of_mem range.nodup_cells ((range.spans_iff t m).mp h)
    · rw [if_neg (by simpa using h)]
      exact List.count_eq_zero_of_not_mem (mt (range.spans_iff t m).mpr h)

namespace Packing

/-- Joining months to a range loses none of them. -/
theorem cellsOf_join (p : Packing) (current : Range) (months : List Month)
    (h : current.first ≤ current.last) :
    cellsOf (p.join current months) =
      current.cells ++ months.map (current.reportType, ·) := by
  induction months generalizing current with
  | nil => rw [join, cellsOf_cons, cellsOf_nil, List.map_nil]
  | cons m ms ih =>
    rw [join]
    split
    · next hj =>
      obtain ⟨rfl, -⟩ := hj
      rw [ih _ (Month.le_succ_of_le h)]
      simp only [Range.cells, Range.months, Month.between_succ h, List.map_append, List.map_cons,
        List.map_nil, List.append_assoc, List.cons_append, List.nil_append]
    · rw [cellsOf_cons, ih _ (Month.le_refl m), Range.cells_single]
      rfl

/-- The ranges of a report type cover its months. -/
theorem cellsOf_packMonths (p : Packing) (reportType : String) (months : List Month) :
    cellsOf (p.packMonths reportType months) = months.map (reportType, ·) := by
  unfold packMonths
  split
  · cases months with
    | nil => rfl
    | cons m ms =>
      change cellsOf (p.join _ ms) = _
      rw [cellsOf_join p _ ms (Month.le_refl m), Range.cells_single]
      rfl
  · exact Range.cellsOf_singles reportType months

theorem mem_monthsOf (ranges : List Range) (t : String) (m : Month) :
    m ∈ monthsOf ranges t ↔ (t, m) ∈ cellsOf ranges := by
  rw [monthsOf, mem_sortedSet, List.mem_flatMap, cellsOf, List.mem_flatMap]
  constructor
  · rintro ⟨range, hr, hm⟩
    obtain ⟨hr, ht⟩ := List.mem_filter.mp hr
    exact ⟨range, hr, (range.mem_cells t m).mpr ⟨(of_decide_eq_true ht).symm, hm⟩⟩
  · rintro ⟨range, hr, hc⟩
    obtain ⟨ht, hm⟩ := (range.mem_cells t m).mp hc
    exact ⟨range, List.mem_filter.mpr ⟨hr, decide_eq_true ht.symm⟩, hm⟩

theorem mem_typesOf_of_mem_cellsOf {ranges : List Range} {t : String} {m : Month}
    (h : (t, m) ∈ cellsOf ranges) : t ∈ typesOf ranges := by
  obtain ⟨range, hr, hc⟩ := List.mem_flatMap.mp h
  rw [typesOf, mem_sortedSet, ((range.mem_cells t m).mp hc).1]
  exact List.mem_map_of_mem hr

/-- The cells of packed ranges, type by type and month by month. -/
theorem cellsOf_pack (p : Packing) (ranges : List Range) :
    cellsOf (p.pack ranges) =
      (typesOf ranges).flatMap fun t ↦ (monthsOf ranges t).map (t, ·) := by
  unfold pack
  induction typesOf ranges with
  | nil => rfl
  | cons t ts ih =>
    rw [List.flatMap_cons, cellsOf_append, cellsOf_packMonths, ih, List.flatMap_cons]

/-- Packing covers the same cells. -/
theorem mem_cellsOf_pack (p : Packing) (ranges : List Range) (t : String) (m : Month) :
    (t, m) ∈ cellsOf (p.pack ranges) ↔ (t, m) ∈ cellsOf ranges := by
  rw [cellsOf_pack, List.mem_flatMap]
  constructor
  · rintro ⟨u, -, hm⟩
    obtain ⟨x, hx, he⟩ := List.mem_map.mp hm
    obtain ⟨rfl, rfl⟩ := Prod.mk.inj he
    exact (mem_monthsOf ranges u x).mp hx
  · intro h
    exact ⟨t, mem_typesOf_of_mem_cellsOf h,
      List.mem_map_of_mem ((mem_monthsOf ranges t m).mpr h)⟩

/-- Packed ranges cover each cell once. -/
theorem nodup_cellsOf_pack (p : Packing) (ranges : List Range) :
    (cellsOf (p.pack ranges)).Nodup := by
  rw [cellsOf_pack]
  refine List.pairwise_flatMap.mpr ?_
  constructor
  · intro t _
    refine List.Pairwise.map _ ?_ (nodup_sortedSet _)
    intro a b hab he
    exact hab (Prod.mk.inj he).2
  · refine (nodup_sortedSet _).imp ?_
    intro t u htu x hx y hy he
    obtain ⟨_, -, rfl⟩ := List.mem_map.mp hx
    obtain ⟨_, -, rfl⟩ := List.mem_map.mp hy
    exact htu (Prod.mk.inj he).1

end Packing
end UsageReports
