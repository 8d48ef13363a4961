import Mathlib.Data.List.Pairwise
import UsageReports.Proofs.Plan.Coverage

/-!
# Packed ranges

Packed ranges stand in the order of report types and months, do not overlap, and are no longer than
is allowed for their type; one that is followed by another without a gap is as long as that. Only
one list of packed ranges covers given cells, so that what ranges are packed to depends on the cells
that they cover and on nothing else.
-/

namespace UsageReports

namespace Range

/-- Earlier in the order of packed ranges: by report type, then by month, without overlap. -/
def Precedes (a b : Range) : Prop :=
  a.reportType < b.reportType ∨ a.reportType = b.reportType ∧ a.last < b.first

instance (a b : Range) : Decidable (a.Precedes b) := inferInstanceAs (Decidable (_ ∨ _))

variable {a b r : Range} {t : String} {m : Month}

/-- A range that spans a month is as long as the months from its first to its last. -/
theorem length_months (h : r.first ≤ r.last) :
    (r.months.length : Int) = r.last.index - r.first.index + 1 := by
  rw [Month.le_iff_index_le] at h
  rw [months, Month.length_between, Month.monthsUntil]
  omega

theorem eq_of_index_eq (htype : a.reportType = b.reportType)
    (hfirst : a.first.index = b.first.index) (hlast : a.last.index = b.last.index) : a = b := by
  obtain ⟨t, first, last⟩ := a
  obtain ⟨t', first', last'⟩ := b
  obtain rfl : t = t' := htype
  obtain rfl : first = first' := Month.eq_of_index_eq hfirst
  obtain rfl : last = last' := Month.eq_of_index_eq hlast
  rfl

theorem one_le_length_months (h : r.first ≤ r.last) : 1 ≤ r.months.length := by
  have hmonths := length_months h
  rw [Month.le_iff_index_le] at h
  omega

theorem length_eq_length_months (h : r.first ≤ r.last) : r.length = r.months.length := by
  have hmonths := length_months h
  rw [Month.le_iff_index_le] at h
  rw [length, Month.monthsUntil]
  omega

theorem length_months_single (t : String) (m : Month) : (single t m).months.length = 1 := by
  rw [months_single]
  rfl

/-- A range grows by the month after its last. -/
theorem length_months_succ (h : r.first ≤ r.last) :
    { r with last := r.last.succ : Range }.months.length = r.months.length + 1 := by
  rw [months, Month.between_succ h, List.length_append]
  rfl

theorem spans_first (h : r.first ≤ r.last) : r.Spans r.reportType r.first :=
  ⟨rfl, Month.le_refl _, h⟩

/-- Of ranges of one type the earlier one ends before the other begins. -/
theorem Precedes.last_lt (h : a.Precedes b) (htype : a.reportType = b.reportType) :
    a.last.index < b.first.index := by
  rcases h with hlt | ⟨-, hlt⟩
  · exact absurd (htype ▸ hlt) (String.lt_irrefl _)
  · exact Month.lt_iff_index_lt.mp hlt

/-- What an earlier range spans no later one does. -/
theorem Precedes.not_spans (h : a.Precedes b) (ha : a.Spans t m) : ¬ b.Spans t m := by
  rintro ⟨rfl, hb, -⟩
  obtain ⟨htype, -, hlast⟩ := ha
  have hlt := h.last_lt htype
  rw [Month.le_iff_index_le] at hb hlast
  omega

/-- Ranges that cover cells in the order of types and months are in that order. -/
theorem ordered_of_cells {ranges : List Range} (hproper : ∀ r ∈ ranges, r.first ≤ r.last)
    (h : (cellsOf ranges).Pairwise (Prod.Lex (· < ·) (· < ·))) : ranges.Pairwise Precedes := by
  refine (List.pairwise_flatMap.mp h).2.imp_of_mem fun {a b} ha hb hlex ↦ ?_
  have hlast : (a.reportType, a.last) ∈ a.cells :=
    (a.spans_iff _ _).mp ⟨rfl, hproper a ha, Month.le_refl _⟩
  have hfirst : (b.reportType, b.first) ∈ b.cells :=
    (b.spans_iff _ _).mp (spans_first (hproper b hb))
  exact Prod.lex_def.mp (hlex _ hlast _ hfirst)

/-- Ranges month by month are the cells that they cover, each as a range of its own. -/
theorem flatMap_expand (ranges : List Range) :
    ranges.flatMap expand = (cellsOf ranges).map fun cell ↦ single cell.1 cell.2 := by
  induction ranges with
  | nil => rfl
  | cons r rest ih =>
    rw [List.flatMap_cons, ih, cellsOf_cons, List.map_append, cells, List.map_map]
    rfl

end Range

namespace Packing

/-- The longest range of a report type. -/
def limit (p : Packing) (reportType : String) : Nat :=
  if p.isJoinable reportType then max 1 p.maxMonths else 1

/-- The form of packed ranges. -/
structure IsPacked (p : Packing) (ranges : List Range) : Prop where
  ordered : ranges.Pairwise Range.Precedes
  proper : ∀ r ∈ ranges, r.first ≤ r.last
  bounded : ∀ r ∈ ranges, r.months.length ≤ p.limit r.reportType
  /-- A range that ends directly before a later one of its type is as long as is allowed. -/
  full : ranges.Pairwise fun a b ↦ a.reportType = b.reportType → a.last.succ = b.first →
    a.months.length = p.limit a.reportType

/-! ### One packed form for given cells -/

namespace IsPacked

variable {p : Packing} {a b : Range} {as bs ranges : List Range}

theorem sublist (h : p.IsPacked ranges) (hs : as.Sublist ranges) : p.IsPacked as where
  ordered := h.ordered.sublist hs
  proper := fun r hr ↦ h.proper r (hs.subset hr)
  bounded := fun r hr ↦ h.bounded r (hs.subset hr)
  full := h.full.sublist hs

/-- The packed ranges of one report type are packed. -/
theorem filter (h : p.IsPacked ranges) (t : String) :
    p.IsPacked (ranges.filter (·.reportType = t)) :=
  h.sublist List.filter_sublist

theorem nodup (h : p.IsPacked ranges) : ranges.Nodup := by
  refine h.ordered.imp_of_mem fun {a b} ha _ hab he ↦ ?_
  obtain rfl := he
  exact hab.not_spans (Range.spans_first (h.proper a ha)) (Range.spans_first (h.proper a ha))

/-- Of two packed ranges one comes before the other. -/
theorem before_or_after (h : p.IsPacked ranges) (ha : a ∈ ranges) (hb : b ∈ ranges) (hne : a ≠ b) :
    (a.Precedes b ∧ (a.reportType = b.reportType → a.last.succ = b.first →
      a.months.length = p.limit a.reportType)) ∨ b.Precedes a := by
  let before (x y : Range) : Prop := x.Precedes y ∧ (x.reportType = y.reportType →
    x.last.succ = y.first → x.months.length = p.limit x.reportType)
  have : Std.Symm fun x y ↦ before x y ∨ before y x := ⟨fun _ _ ↦ Or.symm⟩
  have hboth : ranges.Pairwise fun x y ↦ before x y ∨ before y x :=
    (h.ordered.and h.full).imp Or.inl
  exact (hboth.forall ha hb hne).imp_right And.left

/-- A packed range is as long as is allowed if the month after it is covered too. -/
theorem full_of_covered (h : p.IsPacked ranges) (ha : a ∈ ranges)
    (hnext : (a.reportType, a.last.succ) ∈ cellsOf ranges) :
    a.months.length = p.limit a.reportType := by
  obtain ⟨b, hb, htype, hfirst, hlast⟩ := (mem_cellsOf _ _ _).mp hnext
  have hproper := h.proper a ha
  rw [Month.le_iff_index_le] at hproper hfirst hlast
  rw [Month.index_succ] at hfirst hlast
  have hne : a ≠ b := by
    rintro rfl
    omega
  rcases h.before_or_after ha hb hne with ⟨hbefore, hfull⟩ | hafter
  · have hlt := hbefore.last_lt htype.symm
    refine hfull htype.symm (Month.eq_of_index_eq ?_)
    rw [Month.index_succ]
    omega
  · have hlt := hafter.last_lt htype
    omega

/-- The first packed range begins with the first of the cells. -/
theorem head_le (h : p.IsPacked (a :: as)) {t : String} {m : Month}
    (hm : (t, m) ∈ cellsOf (a :: as)) :
    a.reportType ≤ t ∧ (a.reportType = t → a.first.index ≤ m.index) := by
  obtain ⟨r, hr, rfl, hfirst, -⟩ := (mem_cellsOf _ _ _).mp hm
  have hproper := Month.le_iff_index_le.mp (h.proper a List.mem_cons_self)
  rw [Month.le_iff_index_le] at hfirst
  rcases List.mem_cons.mp hr with rfl | hr
  · exact ⟨Std.le_refl _, fun _ ↦ hfirst⟩
  · rcases (List.pairwise_cons.mp h.ordered).1 r hr with hlt | ⟨he, hlt⟩
    · exact ⟨Std.le_of_lt hlt, fun he ↦ absurd (he ▸ hlt) (String.lt_irrefl _)⟩
    · rw [Month.lt_iff_index_lt] at hlt
      exact ⟨Std.le_of_eq he, fun _ ↦ by omega⟩

/-- What the packed ranges after the first cover is what all cover and the first does not. -/
theorem mem_cellsOf_tail (h : p.IsPacked (a :: as)) (t : String) (m : Month) :
    (t, m) ∈ cellsOf as ↔ (t, m) ∈ cellsOf (a :: as) ∧ (t, m) ∉ a.cells := by
  rw [cellsOf_cons, List.mem_append]
  refine ⟨fun hm ↦ ⟨Or.inr hm, fun ha ↦ ?_⟩, fun ⟨hm, hna⟩ ↦ hm.resolve_left hna⟩
  obtain ⟨r, hr, hspans⟩ := (mem_cellsOf _ _ _).mp hm
  exact ((List.pairwise_cons.mp h.ordered).1 r hr).not_spans ((a.spans_iff _ _).mpr ha) hspans

/-- Of packed ranges with one beginning that belong to the same cells none is longer. -/
theorem last_le (ha : p.IsPacked as) (hb : p.IsPacked bs)
    (hcells : ∀ t m, (t, m) ∈ cellsOf as ↔ (t, m) ∈ cellsOf bs) (hmem : a ∈ as) (hmem' : b ∈ bs)
    (htype : a.reportType = b.reportType) (hfirst : a.first = b.first) :
    a.last.index ≤ b.last.index := by
  by_contra! hlt
  -- The month after `b` is in `a`, so that `b` is as long as is allowed, and `a` is too long.
  have hproper := hb.proper b hmem'
  have hnext : (b.reportType, b.last.succ) ∈ cellsOf bs := by
    refine (hcells _ _).mp ((mem_cellsOf _ _ _).mpr ⟨a, hmem, htype, ?_, ?_⟩)
    · rw [hfirst]
      exact Month.le_succ_of_le hproper
    · rw [Month.le_iff_index_le, Month.index_succ]
      omega
  have hlong := Range.length_months (ha.proper a hmem)
  have hshort := Range.length_months hproper
  have hbound := ha.bounded a hmem
  rw [htype, ← hb.full_of_covered hmem' hnext] at hbound
  rw [hfirst] at hlong
  omega

/-- There is one list of packed ranges that covers given cells. -/
theorem eq_of_cells (ha : p.IsPacked as) (hb : p.IsPacked bs)
    (hcells : ∀ t m, (t, m) ∈ cellsOf as ↔ (t, m) ∈ cellsOf bs) : as = bs := by
  have hcovers : ∀ {a : Range} {as : List Range}, p.IsPacked (a :: as) →
      (a.reportType, a.first) ∈ cellsOf (a :: as) := fun {a as} h ↦
    (mem_cellsOf _ _ _).mpr
      ⟨a, List.mem_cons_self, Range.spans_first (h.proper a List.mem_cons_self)⟩
  induction as generalizing bs with
  | nil =>
    cases bs with
    | nil => rfl
    | cons b bs => exact absurd ((hcells _ _).mpr (hcovers hb)) List.not_mem_nil
  | cons a as ih =>
    cases bs with
    | nil => exact absurd ((hcells _ _).mp (hcovers ha)) List.not_mem_nil
    | cons b bs =>
      obtain ⟨hab, hfirst⟩ := ha.head_le ((hcells _ _).mpr (hcovers hb))
      obtain ⟨hba, hfirst'⟩ := hb.head_le ((hcells _ _).mp (hcovers ha))
      have htype : a.reportType = b.reportType := Std.le_antisymm hab hba
      have hbegin : a.first.index = b.first.index :=
        Int.le_antisymm (hfirst htype) (hfirst' htype.symm)
      have hsame : a.first = b.first := Month.eq_of_index_eq hbegin
      have hend : a.last.index = b.last.index := Int.le_antisymm
        (ha.last_le hb hcells List.mem_cons_self List.mem_cons_self htype hsame)
        (hb.last_le ha (fun t m ↦ (hcells t m).symm) List.mem_cons_self List.mem_cons_self
          htype.symm hsame.symm)
      obtain rfl : a = b := Range.eq_of_index_eq htype hbegin hend
      have htail : as = bs := by
        refine ih (ha.sublist (List.sublist_cons_self a as))
          (hb.sublist (List.sublist_cons_self a bs)) fun t m ↦ ?_
        rw [ha.mem_cellsOf_tail, hb.mem_cellsOf_tail, hcells]
      rw [htail]

end IsPacked

/-! ### What packing comes to -/

section Join

variable {p : Packing} {current r : Range} {months : List Month}

theorem reportType_of_mem_join (h : r ∈ p.join current months) :
    r.reportType = current.reportType := by
  induction months generalizing current with
  | nil => rw [List.mem_singleton.mp h]
  | cons m ms ih =>
    rw [join] at h
    split at h
    · exact (ih h).trans rfl
    · rcases List.mem_cons.mp h with rfl | h
      · rfl
      · exact (ih h).trans rfl

/-- Joined ranges begin where the first of them does, or with one of the months joined to it. -/
theorem first_of_mem_join (h : r ∈ p.join current months) :
    r.first = current.first ∨ r.first ∈ months := by
  induction months generalizing current with
  | nil =>
    rw [List.mem_singleton.mp h]
    exact Or.inl rfl
  | cons m ms ih =>
    rw [join] at h
    split at h
    · exact (ih h).imp_right (List.mem_cons_of_mem m)
    · rcases List.mem_cons.mp h with rfl | h
      · exact Or.inl rfl
      · rcases ih h with he | hm
        · exact Or.inr (he ▸ List.mem_cons_self)
        · exact Or.inr (List.mem_cons_of_mem m hm)

theorem bounded_join (hproper : current.first ≤ current.last)
    (hbound : current.months.length ≤ max 1 p.maxMonths) (h : r ∈ p.join current months) :
    r.first ≤ r.last ∧ r.months.length ≤ max 1 p.maxMonths := by
  induction months generalizing current with
  | nil =>
    rw [List.mem_singleton.mp h]
    exact ⟨hproper, hbound⟩
  | cons m ms ih =>
    rw [join] at h
    split at h
    · next hj =>
      obtain ⟨rfl, hshort⟩ := hj
      rw [Range.length_eq_length_months hproper] at hshort
      refine ih (Month.le_succ_of_le hproper) ?_ h
      rw [Range.length_months_succ hproper]
      omega
    · rcases List.mem_cons.mp h with rfl | h
      · exact ⟨hproper, hbound⟩
      · refine ih (Month.le_refl m) ?_ h
        rw [Range.length_months_single]
        exact Nat.le_max_left 1 _

/-- A range is closed before the month that follows it only if it is as long as is allowed. -/
theorem full_join (hproper : current.first ≤ current.last)
    (hsorted : (current.last :: months).Pairwise (· < ·)) :
    (p.join current months).Pairwise fun a b ↦
      a.last.succ = b.first → max 1 p.maxMonths ≤ a.months.length := by
  induction months generalizing current with
  | nil => exact List.pairwise_singleton _ _
  | cons m ms ih =>
    obtain ⟨hlater, hms⟩ := List.pairwise_cons.mp hsorted
    rw [join]
    split
    · next hj =>
      obtain ⟨rfl, -⟩ := hj
      exact ih (Month.le_succ_of_le hproper) hms
    · next hj =>
      refine List.pairwise_cons.mpr ⟨fun b hb hnext ↦ ?_, ih (Month.le_refl m) hms⟩
      have hlength := Range.length_months hproper
      rw [Month.le_iff_index_le] at hproper
      have hsucc : current.last.succ = m := by
        rcases first_of_mem_join hb with he | hmem
        · exact hnext.trans he
        · have hm := Month.lt_iff_index_lt.mp (hlater m List.mem_cons_self)
          have hafter := Month.lt_iff_index_lt.mp ((List.pairwise_cons.mp hms).1 _ hmem)
          rw [← hnext, Month.index_succ] at hafter
          omega
      rw [Range.length_eq_length_months (Month.le_iff_index_le.mpr hproper)] at hj
      have hlong : ¬ current.months.length < p.maxMonths := fun hshort ↦ hj ⟨hsucc, hshort⟩
      omega

end Join

variable {p : Packing}

theorem reportType_of_mem_packMonths {t : String} {months : List Month} {r : Range}
    (h : r ∈ p.packMonths t months) : r.reportType = t := by
  unfold packMonths at h
  split at h
  · cases months with
    | nil => contradiction
    | cons m ms => exact reportType_of_mem_join h
  · obtain ⟨m, -, rfl⟩ := List.mem_map.mp h
    rfl

/-- The ranges of one report type are packed. -/
theorem isPacked_packMonths {t : String} {months : List Month} (h : months.Pairwise (· < ·)) :
    p.IsPacked (p.packMonths t months) := by
  have hcells : (cellsOf (p.packMonths t months)).Pairwise (Prod.Lex (· < ·) (· < ·)) := by
    rw [cellsOf_packMonths]
    exact h.map _ fun a b hab ↦ Prod.Lex.right _ hab
  have hparts : (∀ r ∈ p.packMonths t months, r.first ≤ r.last ∧ r.months.length ≤ p.limit t) ∧
      (p.packMonths t months).Pairwise fun a b ↦
        a.last.succ = b.first → p.limit t ≤ a.months.length := by
    unfold packMonths limit
    split
    · cases months with
      | nil => exact ⟨fun _ hr ↦ absurd hr List.not_mem_nil, List.Pairwise.nil⟩
      | cons m ms =>
        refine ⟨fun r hr ↦ bounded_join (Month.le_refl m) ?_ hr, full_join (Month.le_refl m) h⟩
        rw [Range.length_months_single]
        exact Nat.le_max_left 1 _
    · have hone : ∀ r ∈ months.map (Range.single t), r.first ≤ r.last ∧ r.months.length = 1 := by
        intro r hr
        obtain ⟨m, -, rfl⟩ := List.mem_map.mp hr
        exact ⟨Month.le_refl m, Range.length_months_single t m⟩
      exact ⟨fun r hr ↦ ⟨(hone r hr).1, Nat.le_of_eq (hone r hr).2⟩,
        (List.pairwise_of_forall fun _ _ ↦ trivial).imp_of_mem
          fun ha _ _ _ ↦ Nat.le_of_eq (hone _ ha).2.symm⟩
  obtain ⟨hbounded, hfull⟩ := hparts
  refine ⟨Range.ordered_of_cells (fun r hr ↦ (hbounded r hr).1) hcells,
    fun r hr ↦ (hbounded r hr).1, fun r hr ↦ ?_, hfull.imp_of_mem fun ha _ hab _ hnext ↦ ?_⟩
  · rw [reportType_of_mem_packMonths hr]
    exact (hbounded r hr).2
  · rw [reportType_of_mem_packMonths ha]
    exact Nat.le_antisymm (hbounded _ ha).2 (hab hnext)

theorem pairwise_monthsOf (ranges : List Range) (t : String) :
    (monthsOf ranges t).Pairwise (· < ·) := by
  refine (pairwise_sortedSet _).imp fun {a b} hab ↦ ?_
  have hle := Month.le_iff_index_le.mp hab.1
  have hne := mt Month.eq_of_index_eq hab.2
  rw [Month.lt_iff_index_lt]
  omega

/-- Packed ranges cover their cells in the order of types and months. -/
theorem pairwise_cellsOf_pack (p : Packing) (ranges : List Range) :
    (cellsOf (p.pack ranges)).Pairwise (Prod.Lex (· < ·) (· < ·)) := by
  rw [cellsOf_pack]
  refine List.pairwise_flatMap.mpr ⟨fun t _ ↦ ?_, ?_⟩
  · exact (pairwise_monthsOf ranges t).map _ fun a b hab ↦ Prod.Lex.right _ hab
  · refine (pairwise_sortedSet _).imp fun {t u} htu x hx y hy ↦ ?_
    obtain ⟨_, -, rfl⟩ := List.mem_map.mp hx
    obtain ⟨_, -, rfl⟩ := List.mem_map.mp hy
    exact Prod.Lex.left _ _ (Std.lt_of_le_of_ne htu.1 htu.2)

/-- Packing makes ranges packed. -/
theorem isPacked_pack (p : Packing) (ranges : List Range) : p.IsPacked (p.pack ranges) := by
  have hmem {r : Range} (hr : r ∈ p.pack ranges) : ∃ t, r ∈ p.packMonths t (monthsOf ranges t) :=
    (List.mem_flatMap.mp hr).imp fun _ ht ↦ ht.2
  have htype (t : String) : p.IsPacked (p.packMonths t (monthsOf ranges t)) :=
    isPacked_packMonths (pairwise_monthsOf ranges t)
  have hproper : ∀ r ∈ p.pack ranges, r.first ≤ r.last := by
    intro r hr
    obtain ⟨t, hr⟩ := hmem hr
    exact (htype t).proper r hr
  refine ⟨Range.ordered_of_cells hproper (pairwise_cellsOf_pack p ranges), hproper, ?_, ?_⟩
  · intro r hr
    obtain ⟨t, hr⟩ := hmem hr
    exact (htype t).bounded r hr
  · refine List.pairwise_flatMap.mpr ⟨fun t _ ↦ (htype t).full, ?_⟩
    -- Ranges of different types never follow each other.
    refine (nodup_sortedSet _).imp fun htu a ha b hb he ↦ absurd ?_ htu
    rw [← reportType_of_mem_packMonths ha, he, reportType_of_mem_packMonths hb]

/-- Packed ranges are what any ranges with their cells are packed to. -/
theorem IsPacked.eq_pack {ranges others : List Range} (hp : p.IsPacked others)
    (h : ∀ t m, (t, m) ∈ cellsOf others ↔ (t, m) ∈ cellsOf ranges) : others = p.pack ranges :=
  hp.eq_of_cells (isPacked_pack p ranges) fun t m ↦ by rw [h, mem_cellsOf_pack]

/-- The months that packed ranges cover, as ranges of their own, in the order of packed ranges. -/
theorem pairwise_expand_pack (p : Packing) (ranges : List Range) :
    ((p.pack ranges).flatMap Range.expand).Pairwise Range.Precedes := by
  rw [Range.flatMap_expand]
  exact (pairwise_cellsOf_pack p ranges).map _ fun _ _ hab ↦ Prod.lex_def.mp hab

theorem mem_expand_pack (p : Packing) (ranges : List Range) (r : Range) :
    r ∈ (p.pack ranges).flatMap Range.expand ↔
      r.isSingle = true ∧ (r.reportType, r.first) ∈ cellsOf ranges := by
  rw [Range.flatMap_expand, List.mem_map, Range.isSingle, decide_eq_true_eq]
  constructor
  · rintro ⟨⟨t, m⟩, hm, rfl⟩
    exact ⟨rfl, (mem_cellsOf_pack p ranges t m).mp hm⟩
  · obtain ⟨t, first, last⟩ := r
    rintro ⟨hsingle, hm⟩
    obtain rfl : first = last := hsingle
    exact ⟨(t, first), (mem_cellsOf_pack p ranges t first).mpr hm, rfl⟩

/-- Whatever ranges are packed, overlapping, repeated, inverted and in any order, what they are
packed to spans the same months of each report type, each month once, and is packed: in order,
without overlap, no range longer than is allowed, and one directly before the next only if it is as
long as that. Types that are asked for month by month get ranges of one month. No other packed
ranges span these months, so that ranges which span the same are packed to the same, and packed
ranges stay as they are. Month by month they are what was spanned, in order. -/
theorem pack_canonical (p : Packing) (ranges : List Range) :
    (∀ t m, ((∃ r ∈ p.pack ranges, r.Spans t m) ↔ ∃ r ∈ ranges, r.Spans t m) ∧
      ((p.pack ranges).countP fun r ↦ r.Spans t m) ≤ 1) ∧
    p.IsPacked (p.pack ranges) ∧
    (∀ r ∈ p.pack ranges, p.isJoinable r.reportType = false → r.isSingle = true) ∧
    (∀ others, (∀ t m, (∃ r ∈ others, r.Spans t m) ↔ ∃ r ∈ ranges, r.Spans t m) →
      p.pack others = p.pack ranges ∧ (p.IsPacked others → others = p.pack ranges)) ∧
    p.pack (p.pack ranges) = p.pack ranges ∧
    ((p.pack ranges).flatMap Range.expand).Pairwise Range.Precedes ∧
    ∀ r, r ∈ (p.pack ranges).flatMap Range.expand ↔
      r.isSingle = true ∧ ∃ range ∈ ranges, range.Spans r.reportType r.first := by
  have hp := isPacked_pack p ranges
  refine ⟨fun t m ↦ ⟨?_, ?_⟩, hp, fun r hr hsingle ↦ ?_, fun others hsame ↦ ?_, ?_,
    pairwise_expand_pack p ranges, fun r ↦ ?_⟩
  · rw [← mem_cellsOf, ← mem_cellsOf, mem_cellsOf_pack]
  · rw [← count_cellsOf]
    exact List.nodup_iff_count_le_one.mp (nodup_cellsOf_pack p ranges) (t, m)
  · have hlength := Range.length_months (hp.proper r hr)
    have hone := hp.bounded r hr
    rw [limit, hsingle, if_neg Bool.false_ne_true] at hone
    have hle := Month.le_iff_index_le.mp (hp.proper r hr)
    exact decide_eq_true (Month.eq_of_index_eq (by omega))
  · have hcells : ∀ t m, (t, m) ∈ cellsOf others ↔ (t, m) ∈ cellsOf ranges := fun t m ↦ by
      rw [mem_cellsOf, mem_cellsOf, hsame]
    refine ⟨(isPacked_pack p others).eq_pack fun t m ↦ ?_, fun hothers ↦ hothers.eq_pack hcells⟩
    rw [mem_cellsOf_pack, hcells]
  · exact (hp.eq_pack fun _ _ ↦ Iff.rfl).symm
  · rw [mem_expand_pack, mem_cellsOf]

/-- Ranges that overlap, one that is inverted, and one of a type asked for month by month. -/
private def scattered : List Range :=
  let january := Month.january 2020
  [⟨"TR", january.pred, january⟩, ⟨"DR", january, january.addMonths 2⟩,
    ⟨"DR", january.pred, january⟩, ⟨"DR", january.succ, january.pred⟩]

/-- The same months in ranges of three months at most. -/
private def gathered : List Range :=
  let january := Month.january 2020
  [⟨"DR", january.pred, january.succ⟩, .single "DR" (january.addMonths 2),
    .single "TR" january.pred, .single "TR" january]

theorem pack_canonical_scattered :
    let p : Packing := { maxMonths := 3 }
    p.pack scattered.reverse = p.pack scattered ∧ p.pack scattered = gathered := by
  intro p
  obtain ⟨-, -, -, hothers, -⟩ := pack_canonical p scattered
  have hreverse : ∀ t m, (∃ r ∈ scattered.reverse, r.Spans t m) ↔ ∃ r ∈ scattered, r.Spans t m :=
    fun t m ↦ by simp only [List.mem_reverse]
  have hgathered : ∀ t m, (∃ r ∈ gathered, r.Spans t m) ↔ ∃ r ∈ scattered, r.Spans t m := by
    intro t m
    have hsub : ∀ cell ∈ cellsOf gathered, cell ∈ cellsOf scattered := by decide +kernel
    have hsub' : ∀ cell ∈ cellsOf scattered, cell ∈ cellsOf gathered := by decide +kernel
    rw [← mem_cellsOf, ← mem_cellsOf]
    exact ⟨hsub (t, m), hsub' (t, m)⟩
  have hpacked : p.IsPacked gathered :=
    ⟨by decide +kernel, by decide +kernel, by decide +kernel, by decide +kernel⟩
  exact ⟨(hothers _ hreverse).1, ((hothers _ hgathered).2 hpacked).symm⟩

end Packing
end UsageReports
