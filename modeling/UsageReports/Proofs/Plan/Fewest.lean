import Mathlib.Algebra.Order.Floor.Div
import Mathlib.GroupTheory.GroupAction.Ring
import UsageReports.Proofs.Plan.Packed

/-!
# Packing to the fewest ranges

No ranges within the limit span the same months and are fewer than the packed ones: none of them can
span the first months of two packed ranges. A run is an interval of months that is covered and
followed or preceded by no other; packing cuts each run into as many ranges as its length takes.
-/

namespace UsageReports

namespace Packing

variable {p : Packing} {ranges : List Range}

/-! ### First months -/

/-- A range within the limit does not span the first months of two packed ranges: if it did, the
month after the first of them would be covered, and this one as long as is allowed. -/
theorem IsPacked.not_spans_both (h : p.IsPacked ranges) {a b r : Range} (ha : a ∈ ranges)
    (hab : a.Precedes b) (hbound : r.months.length ≤ p.limit r.reportType)
    (hcovered : ∀ t m, r.Spans t m → (t, m) ∈ cellsOf ranges)
    (hspans : r.Spans a.reportType a.first) : ¬ r.Spans b.reportType b.first := by
  rintro ⟨htype', -, hlast⟩
  obtain ⟨htype, hfirst, -⟩ := hspans
  have hlt := hab.last_lt (htype.symm.trans htype')
  have hproper := h.proper a ha
  have hlength := Range.length_months hproper
  rw [Month.le_iff_index_le] at hfirst hlast hproper
  have hnext : r.Spans a.reportType a.last.succ := by
    refine ⟨htype, ?_, ?_⟩ <;> rw [Month.le_iff_index_le, Month.index_succ] <;> omega
  have hfull := h.full_of_covered ha (hcovered _ _ hnext)
  have hlength' := Range.length_months (Month.le_trans hnext.2.1 hnext.2.2)
  rw [htype, ← hfull] at hbound
  omega

/-- Packed ranges are no more than any ranges within the limit that cover the same. -/
theorem IsPacked.length_le (h : p.IsPacked ranges) {cover : List Range}
    (hbound : ∀ r ∈ cover, r.months.length ≤ p.limit r.reportType)
    (hcells : ∀ t m, (t, m) ∈ cellsOf cover ↔ (t, m) ∈ cellsOf ranges) :
    ranges.length ≤ cover.length := by
  have hexists (a : Range) : ∃ r, a ∈ ranges → r ∈ cover ∧ r.Spans a.reportType a.first := by
    by_cases ha : a ∈ ranges
    · have hfirst := (mem_cellsOf _ _ _).mpr ⟨a, ha, Range.spans_first (h.proper a ha)⟩
      obtain ⟨r, hr, hspans⟩ := (mem_cellsOf _ _ _).mp ((hcells _ _).mpr hfirst)
      exact ⟨r, fun _ ↦ ⟨hr, hspans⟩⟩
    · exact ⟨a, fun hmem ↦ absurd hmem ha⟩
  choose pick hpick using hexists
  have hdistinct : (ranges.map pick).Nodup := by
    refine List.pairwise_map.mpr (h.ordered.imp_of_mem fun {a b} ha hb hab he ↦ ?_)
    refine h.not_spans_both ha hab (hbound _ (hpick a ha).1) (fun t m hm ↦ ?_) (hpick a ha).2 ?_
    · exact (hcells t m).mp ((mem_cellsOf _ _ _).mpr ⟨_, (hpick a ha).1, hm⟩)
    · rw [he]
      exact (hpick b hb).2
  have hsub : ranges.map pick ⊆ cover := by
    intro r hr
    obtain ⟨a, ha, rfl⟩ := List.mem_map.mp hr
    exact (hpick a ha).1
  calc ranges.length = (ranges.map pick).length := (List.length_map _).symm
    _ ≤ cover.length := (hdistinct.subperm hsub).length_le

/-! ### Runs -/

/-- An interval of months that ranges cover in a report type, and that goes on on neither side. -/
structure IsRun (ranges : List Range) (run : Range) : Prop where
  proper : run.first ≤ run.last
  covered : ∀ t m, run.Spans t m → (t, m) ∈ cellsOf ranges
  before : (run.reportType, run.first.pred) ∉ cellsOf ranges
  after : (run.reportType, run.last.succ) ∉ cellsOf ranges

namespace IsRun

variable {a b : Range} {m : Month}

/-- Of two runs with a month in common neither begins earlier, and neither ends later. -/
theorem first_le_and_last_le (ha : IsRun ranges a) (hb : IsRun ranges b)
    (ham : a.Spans b.reportType m) (hbm : b.Spans b.reportType m) :
    b.first.index ≤ a.first.index ∧ a.last.index ≤ b.last.index := by
  obtain ⟨htype, hfirst, hlast⟩ := ham
  obtain ⟨-, hfirst', hlast'⟩ := hbm
  rw [Month.le_iff_index_le] at hfirst hlast hfirst' hlast'
  constructor
  · by_contra! hlt
    refine hb.before (ha.covered _ _ ⟨htype, ?_, ?_⟩) <;>
      rw [Month.le_iff_index_le, Month.index_pred] <;> omega
  · by_contra! hlt
    refine hb.after (ha.covered _ _ ⟨htype, ?_, ?_⟩) <;>
      rw [Month.le_iff_index_le, Month.index_succ] <;> omega

/-- Runs with a month in common are the same. -/
theorem eq_of_spans (ha : IsRun ranges a) (hb : IsRun ranges b) {t : String}
    (ham : a.Spans t m) (hbm : b.Spans t m) : a = b := by
  have htype : a.reportType = b.reportType := ham.1.trans hbm.1.symm
  obtain ⟨h1, h2⟩ := ha.first_le_and_last_le hb (hbm.1 ▸ ham) (hbm.1 ▸ hbm)
  obtain ⟨h3, h4⟩ := hb.first_le_and_last_le ha (ham.1 ▸ hbm) (ham.1 ▸ ham)
  exact Range.eq_of_index_eq htype (Int.le_antisymm h3 h1) (Int.le_antisymm h2 h4)

end IsRun

/-- Ranges so long that no range can reach their length. -/
def unlimited (p : Packing) (ranges : List Range) : Packing :=
  { p with maxMonths := (cellsOf ranges).length + 1 }

/-- Without a limit the range after which a month is covered would cover more than there is. -/
theorem not_covered_succ {r : Range} (hr : r ∈ (p.unlimited ranges).pack ranges)
    (hjoin : p.isJoinable r.reportType = true) :
    (r.reportType, r.last.succ) ∉ cellsOf ranges := by
  intro hnext
  have hp := isPacked_pack (p.unlimited ranges) ranges
  have hfull := hp.full_of_covered hr ((mem_cellsOf_pack _ _ _ _).mpr hnext)
  have hlimit : (p.unlimited ranges).limit r.reportType = (cellsOf ranges).length + 1 :=
    (if_pos hjoin).trans (Nat.max_eq_right (Nat.le_add_left 1 _))
  have hsub : r.cells ⊆ cellsOf ranges := fun ⟨t, m⟩ hm ↦ (mem_cellsOf_pack _ _ _ _).mp
    ((mem_cellsOf _ _ _).mpr ⟨r, hr, (r.spans_iff t m).mpr hm⟩)
  have hle := (r.nodup_cells.subperm hsub).length_le
  rw [Range.cells, List.length_map] at hle
  omega

/-- A packed range before which the month is covered follows another one without a gap. -/
theorem IsPacked.exists_follows (h : p.IsPacked ranges) {r : Range} (hr : r ∈ ranges)
    (hprev : (r.reportType, r.first.pred) ∈ cellsOf ranges) :
    ∃ c ∈ ranges, c.reportType = r.reportType ∧ c.last.succ = r.first := by
  obtain ⟨c, hc, htype, hfirst, hlast⟩ := (mem_cellsOf _ _ _).mp hprev
  have hproper := h.proper r hr
  rw [Month.le_iff_index_le] at hfirst hlast hproper
  rw [Month.index_pred] at hfirst hlast
  have hne : c ≠ r := by
    rintro rfl
    omega
  refine ⟨c, hc, htype, Month.eq_of_index_eq ?_⟩
  rw [Month.index_succ]
  rcases h.before_or_after hc hr hne with ⟨hbefore, -⟩ | hafter
  · have hlt := hbefore.last_lt htype
    omega
  · have hlt := hafter.last_lt htype.symm
    omega

theorem isRun_of_mem_pack_unlimited {r : Range} (hr : r ∈ (p.unlimited ranges).pack ranges)
    (hjoin : p.isJoinable r.reportType = true) : IsRun ranges r := by
  have hp := isPacked_pack (p.unlimited ranges) ranges
  have hcells (t : String) (m : Month) := mem_cellsOf_pack (p.unlimited ranges) ranges t m
  refine ⟨hp.proper r hr, fun t m hm ↦ ?_, fun hprev ↦ ?_, not_covered_succ hr hjoin⟩
  · exact (hcells t m).mp ((mem_cellsOf _ _ _).mpr ⟨r, hr, hm⟩)
  · obtain ⟨c, hc, htype, hfollows⟩ := hp.exists_follows hr ((hcells _ _).mpr hprev)
    refine not_covered_succ hc (htype ▸ hjoin) ((hcells _ _).mp ?_)
    rw [hfollows, htype]
    exact (mem_cellsOf _ _ _).mpr ⟨r, hr, Range.spans_first (hp.proper r hr)⟩

/-- Packing without a limit comes to the runs. -/
theorem mem_pack_unlimited_iff {r : Range} (hjoin : p.isJoinable r.reportType = true) :
    r ∈ (p.unlimited ranges).pack ranges ↔ IsRun ranges r := by
  refine ⟨fun hr ↦ isRun_of_mem_pack_unlimited hr hjoin, fun h ↦ ?_⟩
  have hspans := Range.spans_first h.proper
  have hfirst := (mem_cellsOf_pack (p.unlimited ranges) _ _ _).mpr (h.covered _ _ hspans)
  obtain ⟨c, hc, hspans'⟩ := (mem_cellsOf _ _ _).mp hfirst
  have hrun := isRun_of_mem_pack_unlimited hc (hspans'.1 ▸ hjoin)
  exact hrun.eq_of_spans h hspans' hspans ▸ hc

/-! ### Cutting runs -/

theorem ceilDiv_eq_succ (closed : Nat) {limit rest : Nat} (hone : 1 ≤ rest) (hle : rest ≤ limit) :
    (closed * limit + rest) ⌈/⌉ limit = closed + 1 := by
  rw [Nat.ceilDiv_eq_add_pred_div]
  refine Nat.div_eq_of_lt_le ?_ ?_ <;> grind

/-- A month that follows a range which may grow is joined to it. -/
theorem join_of_follows {r : Range} {months : List Month} (hproper : r.first ≤ r.last)
    (hshort : r.months.length < p.maxMonths) :
    p.join r (r.last.succ :: months) = p.join { r with last := r.last.succ } months := by
  rw [join, Range.length_eq_length_months hproper]
  exact if_pos ⟨rfl, hshort⟩

/-- Another month begins a range of its own. -/
theorem join_of_not_follows {r : Range} {m : Month} {months : List Month}
    (hproper : r.first ≤ r.last) (h : r.last.succ = m → p.maxMonths ≤ r.months.length) :
    p.join r (m :: months) = r :: p.join (.single r.reportType m) months := by
  rw [join, Range.length_eq_length_months hproper]
  exact if_neg fun hboth ↦ Nat.not_lt.mpr (h hboth.1) hboth.2

/-- Months are joined to as many ranges as it takes to cut their runs. Of the run that is open and
began at `start`, `closed` ranges have been cut off; the range from `first` on is the rest of it. -/
theorem length_join_add {q : Packing} {t : String} {start first last : Month}
    {months : List Month} {closed : Nat} (hstart : start ≤ last) (hfirst : first ≤ last)
    (hlength : (Range.mk t start last).months.length =
      closed * p.maxMonths + (Range.mk t first last).months.length)
    (hbound : (Range.mk t first last).months.length ≤ p.maxMonths)
    (hroom : (Range.mk t start last).months.length + months.length ≤ q.maxMonths) :
    closed + (p.join ⟨t, first, last⟩ months).length =
      ((q.join ⟨t, start, last⟩ months).map fun r ↦ r.months.length ⌈/⌉ p.maxMonths).sum := by
  induction months generalizing start first last closed with
  | nil =>
    have hcut := ceilDiv_eq_succ closed (Range.one_le_length_months hfirst) hbound
    simp [join, hlength, hcut]
  | cons m ms ih =>
    have hsingle : (Range.mk t m m).months.length = 1 := Range.length_months_single t m
    rw [List.length_cons] at hroom
    by_cases hnext : last.succ = m
    · subst hnext
      have hstart' := Month.le_succ_of_le hstart
      have hjoin : q.join ⟨t, start, last⟩ (last.succ :: ms) = q.join ⟨t, start, last.succ⟩ ms :=
        join_of_follows hstart (by omega)
      have hgrow : (Range.mk t start last.succ).months.length =
          (Range.mk t start last).months.length + 1 :=
        Range.length_months_succ (r := ⟨t, start, last⟩) hstart
      rw [hjoin]
      by_cases hshort : (Range.mk t first last).months.length < p.maxMonths
      · -- The run and the range grow together.
        have hjoin' : p.join ⟨t, first, last⟩ (last.succ :: ms) = p.join ⟨t, first, last.succ⟩ ms :=
          join_of_follows hfirst hshort
        have hgrow' : (Range.mk t first last.succ).months.length =
            (Range.mk t first last).months.length + 1 :=
          Range.length_months_succ (r := ⟨t, first, last⟩) hfirst
        rw [hjoin']
        exact ih hstart' (Month.le_succ_of_le hfirst) (by omega) (by omega) (by omega)
      · -- The run grows, and another range is cut off from it.
        have hfull : (Range.mk t start last.succ).months.length =
            (closed + 1) * p.maxMonths + (Range.mk t last.succ last.succ).months.length := by
          rw [hgrow, hlength, hsingle, Nat.succ_mul]
          omega
        have hone := Range.one_le_length_months (r := ⟨t, first, last⟩) hfirst
        rw [join_of_not_follows hfirst fun _ ↦ Nat.not_lt.mp hshort, List.length_cons,
          Nat.add_comm _ 1, ← Nat.add_assoc]
        exact ih hstart' (Month.le_refl _) hfull (by omega) (by omega)
    · -- The run is at its end, and with it the last range of it.
      have hcut := ceilDiv_eq_succ closed (Range.one_le_length_months hfirst) hbound
      have hone := Range.one_le_length_months (r := ⟨t, first, last⟩) hfirst
      have hrest : 0 + (p.join ⟨t, m, m⟩ ms).length = _ :=
        ih (Month.le_refl m) (Month.le_refl m) (by omega) (by omega) (by omega)
      rw [join_of_not_follows hfirst fun h ↦ absurd h hnext,
        join_of_not_follows hstart fun h ↦ absurd h hnext, List.length_cons, List.map_cons,
        List.sum_cons, hlength, hcut]
      calc closed + ((p.join ⟨t, m, m⟩ ms).length + 1)
        _ = closed + 1 + (0 + (p.join ⟨t, m, m⟩ ms).length) := by omega
        _ = closed + 1 + ((q.join ⟨t, m, m⟩ ms).map fun r ↦ r.months.length ⌈/⌉ p.maxMonths).sum :=
          congrArg (closed + 1 + ·) hrest

/-! ### The ranges of one report type -/

theorem mem_cellsOf_filter (ranges : List Range) (t u : String) (m : Month) :
    (u, m) ∈ cellsOf (ranges.filter (·.reportType = t)) ↔ u = t ∧ (u, m) ∈ cellsOf ranges := by
  rw [mem_cellsOf, mem_cellsOf]
  constructor
  · rintro ⟨r, hr, hspans⟩
    obtain ⟨hmem, htype⟩ := List.mem_filter.mp hr
    exact ⟨hspans.1.symm.trans (of_decide_eq_true htype), r, hmem, hspans⟩
  · rintro ⟨rfl, r, hr, hspans⟩
    exact ⟨r, List.mem_filter.mpr ⟨hr, decide_eq_true hspans.1⟩, hspans⟩

theorem filter_pack (p : Packing) (ranges : List Range) (t : String) :
    (p.pack ranges).filter (·.reportType = t) = p.packMonths t (monthsOf ranges t) := by
  have hp := (isPacked_pack p ranges).filter t
  refine hp.eq_of_cells (isPacked_packMonths (pairwise_monthsOf ranges t)) fun u m ↦ ?_
  rw [mem_cellsOf_filter, mem_cellsOf_pack, cellsOf_packMonths, List.mem_map]
  constructor
  · rintro ⟨rfl, hm⟩
    exact ⟨m, (mem_monthsOf ranges u m).mpr hm, rfl⟩
  · rintro ⟨m', hm', he⟩
    obtain ⟨rfl, rfl⟩ := Prod.mk.inj he
    exact ⟨rfl, (mem_monthsOf ranges t m').mp hm'⟩

/-- Packed ranges of a type are as many as it takes to cut its runs. -/
theorem length_filter_pack {t : String} (hjoin : p.isJoinable t = true) (hmax : 1 ≤ p.maxMonths)
    (ranges : List Range) :
    ((p.pack ranges).filter (·.reportType = t)).length =
      ((((p.unlimited ranges).pack ranges).filter (·.reportType = t)).map
        fun r ↦ r.months.length ⌈/⌉ p.maxMonths).sum := by
  have hjoin' : (p.unlimited ranges).isJoinable t = true := hjoin
  have hcount : (monthsOf ranges t).length ≤ (cellsOf ranges).length := by
    have hsub : (monthsOf ranges t).map (t, ·) ⊆ cellsOf ranges := by
      intro cell hcell
      obtain ⟨m, hm, rfl⟩ := List.mem_map.mp hcell
      exact (mem_monthsOf ranges t m).mp hm
    have hnodup : ((monthsOf ranges t).map (t, ·)).Nodup :=
      (nodup_sortedSet _).map (Prod.mk_right_injective t)
    have hle := (hnodup.subperm hsub).length_le
    rwa [List.length_map] at hle
  rw [filter_pack, filter_pack]
  cases hmonths : monthsOf ranges t with
  | nil => simp [packMonths, hjoin, hjoin']
  | cons m ms =>
    rw [hmonths, List.length_cons] at hcount
    have hsingle : (Range.mk t m m).months.length = 1 := Range.length_months_single t m
    have hroom : 1 + ms.length ≤ (p.unlimited ranges).maxMonths := by
      change 1 + ms.length ≤ (cellsOf ranges).length + 1
      omega
    have hcut : 0 + (p.join ⟨t, m, m⟩ ms).length =
        (((p.unlimited ranges).join ⟨t, m, m⟩ ms).map
          fun r ↦ r.months.length ⌈/⌉ p.maxMonths).sum :=
      length_join_add (Month.le_refl m) (Month.le_refl m) (by omega) (by omega) (hsingle ▸ hroom)
    rw [Nat.zero_add] at hcut
    unfold packMonths
    rw [if_pos hjoin, if_pos hjoin']
    exact hcut

/-- Of a report type whose months are joined, no ranges within the limit that span the same months
are fewer than the packed ones, be they inverted or overlapping. There are as many packed ranges as
it takes to cut each run of the type's months into ranges of the length that is allowed. -/
theorem pack_fewest (p : Packing) {t : String} (hjoin : p.isJoinable t = true)
    (hmax : 1 ≤ p.maxMonths) (ranges : List Range) :
    (∀ cover : List Range,
      (∀ r ∈ cover, r.reportType = t ∧ r.months.length ≤ p.maxMonths) →
      (∀ m, (∃ r ∈ cover, r.Spans t m) ↔ ∃ r ∈ ranges, r.Spans t m) →
      ((p.pack ranges).filter (·.reportType = t)).length ≤ cover.length) ∧
    ∃ runs : List Range, runs.Nodup ∧ (∀ r, r ∈ runs ↔ r.reportType = t ∧ IsRun ranges r) ∧
      ((p.pack ranges).filter (·.reportType = t)).length =
        (runs.map fun r ↦ r.months.length ⌈/⌉ p.maxMonths).sum := by
  constructor
  · intro cover hcover hsame
    have hp := (isPacked_pack p ranges).filter t
    refine hp.length_le (fun r hr ↦ ?_) fun u m ↦ ?_
    · obtain ⟨rfl, hle⟩ := hcover r hr
      rwa [limit, if_pos hjoin, Nat.max_eq_right hmax]
    · rw [mem_cellsOf_filter, mem_cellsOf_pack, mem_cellsOf, mem_cellsOf]
      constructor
      · rintro ⟨r, hr, hspans⟩
        obtain rfl : u = t := hspans.1.symm.trans (hcover r hr).1
        exact ⟨rfl, (hsame m).mp ⟨r, hr, hspans⟩⟩
      · rintro ⟨rfl, hcovered⟩
        exact (hsame m).mpr hcovered
  · refine ⟨_, ?_, fun r ↦ ?_, length_filter_pack hjoin hmax ranges⟩
    · exact (isPacked_pack _ ranges).nodup.filter _
    · rw [List.mem_filter, decide_eq_true_eq, and_comm]
      exact and_congr_right fun htype ↦ mem_pack_unlimited_iff (htype ▸ hjoin)

/-- Four successive months in two ranges. -/
private def overlapping : List Range :=
  let january := Month.january 2020
  [⟨"DR", january, january.addMonths 2⟩, ⟨"DR", january.succ, january.addMonths 3⟩]

theorem pack_fewest_overlapping :
    let p : Packing := { maxMonths := 3 }
    p.isJoinable "DR" = true ∧ 1 ≤ p.maxMonths ∧
      ((p.pack overlapping).filter (·.reportType = "DR")).length ≤ overlapping.length ∧
      ∃ runs : List Range, runs.Nodup ∧
        (∀ r, r ∈ runs ↔ r.reportType = "DR" ∧ IsRun overlapping r) ∧
        ((p.pack overlapping).filter (·.reportType = "DR")).length =
          (runs.map fun r ↦ r.months.length ⌈/⌉ p.maxMonths).sum := by
  intro p
  obtain ⟨hfewest, hruns⟩ := pack_fewest p (t := "DR") rfl (by decide) overlapping
  exact ⟨rfl, by decide, hfewest overlapping (by decide) fun _ ↦ Iff.rfl, hruns⟩

end Packing
end UsageReports
