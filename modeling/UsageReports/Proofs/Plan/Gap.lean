import UsageReports.Proofs.Plan.Coverage

/-!
# Plans cover the gap

The plan of an active provider covers exactly its missing cells, each once. It depends on the stored
records only through which wanted cells they settle.
-/

namespace UsageReports

namespace Provider

/-- Whether a cell is wanted, over by `lastCompleted`, and not settled by what is stored. -/
structure Misses (p : Provider) (existing : List Record) (lastCompleted : Month)
    (t : String) (m : Month) : Prop where
  requested : t ∈ p.reportTypes
  wanted : m ∈ p.wantedMonths lastCompleted
  unsettled : p.isSettled existing t m = false

/-- The wanted months are those from the start to the end, as far as they are over. -/
theorem mem_wantedMonths (p : Provider) (lastCompleted m : Month) :
    m ∈ p.wantedMonths lastCompleted ↔
      p.start ≤ m ∧ m ≤ lastCompleted ∧ ∀ stop ∈ p.stop, m ≤ stop := by
  rw [wantedMonths, Month.mem_between, Month.le_clampEnd]

/-- The missing cells, type by type, each as a range of its own. -/
private def missing (p : Provider) (existing : List Record) (lastCompleted : Month) : List Range :=
  (p.gaps existing lastCompleted).flatMap fun (t, months) ↦ months.map (Range.single t)

private theorem mem_cellsOf_missing (p : Provider) (existing : List Record) (lastCompleted : Month)
    (t : String) (m : Month) :
    (t, m) ∈ cellsOf (p.missing existing lastCompleted) ↔ p.Misses existing lastCompleted t m := by
  have hcells : cellsOf (p.missing existing lastCompleted) =
      p.reportTypes.flatMap fun t ↦
        ((p.wantedMonths lastCompleted).filter fun m ↦ !p.isSettled existing t m).map (t, ·) := by
    unfold missing gaps
    induction p.reportTypes with
    | nil => rfl
    | cons t ts ih =>
      rw [List.map_cons, List.flatMap_cons, cellsOf_append, Range.cellsOf_singles, ih,
        List.flatMap_cons]
  rw [hcells, List.mem_flatMap]
  constructor
  · rintro ⟨u, hu, hm⟩
    obtain ⟨x, hx, he⟩ := List.mem_map.mp hm
    obtain ⟨rfl, rfl⟩ := Prod.mk.inj he
    obtain ⟨hw, hs⟩ := List.mem_filter.mp hx
    exact ⟨hu, hw, by simpa using hs⟩
  · rintro ⟨ht, hw, hs⟩
    exact ⟨t, ht, List.mem_map_of_mem (List.mem_filter.mpr ⟨hw, by simpa using hs⟩)⟩

private theorem plan_eq (packing : Packing) (p : Provider) (existing : List Record)
    (lastCompleted : Month) :
    p.plan packing existing lastCompleted =
      if p.isActive then .ok (packing.pack (p.missing existing lastCompleted))
      else .error (.notActive p.id) := rfl

variable {packing : Packing} {p : Provider} {existing : List Record} {lastCompleted : Month}
  {ranges : List Range}

/-- Only active providers have a plan. -/
theorem isActive_of_plan (h : p.plan packing existing lastCompleted = .ok ranges) :
    p.isActive = true := by
  rw [plan_eq] at h
  split at h
  · next ha => exact ha
  · contradiction

/-- Every active provider has a plan. -/
theorem exists_plan (ha : p.isActive = true) :
    ∃ ranges, p.plan packing existing lastCompleted = .ok ranges :=
  ⟨_, if_pos ha⟩

private theorem eq_pack_of_plan (h : p.plan packing existing lastCompleted = .ok ranges) :
    ranges = packing.pack (p.missing existing lastCompleted) := by
  rw [plan_eq, if_pos (isActive_of_plan h)] at h
  exact (Except.ok.inj h).symm

/-- A plan covers exactly the missing cells. -/
theorem mem_cellsOf_plan (h : p.plan packing existing lastCompleted = .ok ranges)
    (t : String) (m : Month) :
    (t, m) ∈ cellsOf ranges ↔ p.Misses existing lastCompleted t m := by
  rw [eq_pack_of_plan h, Packing.mem_cellsOf_pack, mem_cellsOf_missing]

/-- A plan covers each cell once. -/
theorem nodup_cellsOf_plan (h : p.plan packing existing lastCompleted = .ok ranges) :
    (cellsOf ranges).Nodup := by
  rw [eq_pack_of_plan h]
  exact packing.nodup_cellsOf_pack _

/-- A month of a type is settled by a record of it that is satisfied or has failed too often. -/
theorem isSettled_eq_false_iff (p : Provider) (existing : List Record) (t : String) (m : Month) :
    p.isSettled existing t m = false ↔
      ∀ r ∈ existing, r.provider = p.id → r.reportType = t → r.month = m →
        ¬ (r.isSatisfied = true ∨ r.isFailure = true ∧ p.maxFailedAttempts ≤ r.attempts) := by
  simp only [isSettled, Record.isExhausted, List.any_eq_false, Bool.and_eq_true, Bool.or_eq_true,
    decide_eq_true_eq, not_and, and_imp]

/-- Whatever is stored and however months are packed, an active provider has a plan. It spans a
month of a report type if and only if the type is requested, the month is wanted and over, and no
record of the provider for it is satisfied or has failed as often as is allowed; and a month that it
spans is spanned by one of its ranges only. -/
theorem plan_spans_gap_once (packing : Packing) (p : Provider) (existing : List Record)
    (lastCompleted : Month) (ha : p.isActive = true) :
    ∃ ranges, p.plan packing existing lastCompleted = .ok ranges ∧ ∀ t m,
      ((∃ range ∈ ranges, range.Spans t m) ↔
        t ∈ p.reportTypes ∧ (p.start ≤ m ∧ m ≤ lastCompleted ∧ ∀ stop ∈ p.stop, m ≤ stop) ∧
          ∀ r ∈ existing, r.provider = p.id → r.reportType = t → r.month = m →
            ¬ (r.isSatisfied = true ∨ r.isFailure = true ∧ p.maxFailedAttempts ≤ r.attempts)) ∧
      ((∃ range ∈ ranges, range.Spans t m) →
        (ranges.countP fun range ↦ range.Spans t m) = 1) := by
  obtain ⟨ranges, hplan⟩ : ∃ ranges, p.plan packing existing lastCompleted = .ok ranges :=
    exists_plan ha
  refine ⟨ranges, hplan, fun t m ↦ ⟨?_, fun hspans ↦ ?_⟩⟩
  · rw [← mem_cellsOf, mem_cellsOf_plan hplan, ← mem_wantedMonths, ← isSettled_eq_false_iff]
    exact ⟨fun h ↦ ⟨h.requested, h.wanted, h.unsettled⟩, fun ⟨ht, hm, hs⟩ ↦ ⟨ht, hm, hs⟩⟩
  · rw [← count_cellsOf]
    exact List.count_eq_one_of_mem (nodup_cellsOf_plan hplan) ((mem_cellsOf ranges t m).mpr hspans)

/-- A provider of daily reports from January 2020 on. -/
private def sinceJanuary : Provider :=
  { id := "p", tenant := "a", reportTypes := ["DR"], start := .january 2020 }

/-- February is there, and in March the fetch failed once. -/
private def fetched : List Record :=
  [.success "p" "DR" (Month.january 2020).succ .null,
    .placeholder "p" "DR" (Month.january 2020).succ.succ "no"]

theorem plan_spans_gap_once_after_a_failure :
    sinceJanuary.isActive = true ∧
      ∃ ranges, sinceJanuary.plan {} fetched (.january 2021) = .ok ranges ∧
        (¬ ∃ range ∈ ranges, range.Spans "DR" (Month.january 2020).succ) ∧
        (ranges.countP fun range ↦ range.Spans "DR" (Month.january 2020).succ.succ) = 1 := by
  refine ⟨rfl, ?_⟩
  obtain ⟨ranges, hplan, hspans⟩ := plan_spans_gap_once {} sinceJanuary fetched (.january 2021) rfl
  refine ⟨ranges, hplan, fun h ↦ ?_, (hspans _ _).2 ((hspans _ _).1.mpr ?_)⟩
  · have hopen := ((hspans _ _).1.mp h).2.2
    exact absurd hopen (by decide)
  · decide

/-- An active provider that misses nothing has the empty plan. -/
theorem plan_eq_nil (ha : p.isActive = true)
    (h : ∀ t m, ¬ p.Misses existing lastCompleted t m) :
    p.plan packing existing lastCompleted = .ok [] := by
  have hnone : p.missing existing lastCompleted = [] := by
    apply List.eq_nil_iff_forall_not_mem.mpr
    intro range hr
    obtain ⟨⟨t, months⟩, -, hm⟩ := List.mem_flatMap.mp hr
    obtain ⟨m, -, rfl⟩ := List.mem_map.mp hm
    refine h t m ((mem_cellsOf_missing p existing lastCompleted t m).mp ?_)
    exact List.mem_flatMap.mpr ⟨_, hr, by rw [Range.cells_single]; exact List.mem_singleton_self _⟩
  rw [plan_eq, if_pos ha, hnone]
  simp [Packing.pack, Packing.typesOf, sortedSet, sortedBy, lastOfEach]

/-- Stored records that settle the same wanted cells lead to the same plan. -/
theorem plan_congr {other : List Record}
    (h : ∀ t ∈ p.reportTypes, ∀ m ∈ p.wantedMonths lastCompleted,
      p.isSettled existing t m = p.isSettled other t m) :
    p.plan packing existing lastCompleted = p.plan packing other lastCompleted := by
  have hgaps : p.gaps existing lastCompleted = p.gaps other lastCompleted := by
    apply List.map_congr_left
    intro t ht
    have hf : (p.wantedMonths lastCompleted).filter (fun m ↦ !p.isSettled existing t m) =
        (p.wantedMonths lastCompleted).filter fun m ↦ !p.isSettled other t m :=
      List.filter_congr fun m hm ↦ by rw [h t ht m hm]
    rw [hf]
  rw [plan, plan, hgaps]

end Provider
end UsageReports
