import UsageReports.Proofs.Text.Numeral

/-!
# What is read as a numeral

The readers of texts, against what they are to accept: the numerals of a number, the parts of a text
around its first dash, and what is left of a text without the blanks at its ends.
-/

namespace UsageReports

/-! ### Blanks -/

/-- Whether `core` is a text without the blanks at its ends. -/
structure Trimmed (cs core : List Char) : Prop where
  around : ∃ before after, cs = before ++ core ++ after ∧ (∀ c ∈ before, isBlank c = true) ∧
    ∀ c ∈ after, isBlank c = true
  head : ∀ c ∈ core.head?, isBlank c = false
  last : ∀ c ∈ core.getLast?, isBlank c = false

theorem dropWhile_isBlank_append {before cs : List Char} (hbefore : ∀ c ∈ before, isBlank c = true)
    (hhead : ∀ c ∈ cs.head?, isBlank c = false) : (before ++ cs).dropWhile isBlank = cs := by
  rw [List.dropWhile_append_of_pos hbefore]
  cases cs with
  | nil => rfl
  | cons c cs => exact trimStart_cons_of_not_isBlank (hhead c rfl)

/-- A text starts with the blanks that are dropped from it. -/
theorem exists_dropWhile_isBlank (cs : List Char) :
    ∃ before, cs = before ++ cs.dropWhile isBlank ∧ (∀ c ∈ before, isBlank c = true) ∧
      ∀ c ∈ (cs.dropWhile isBlank).head?, isBlank c = false := by
  refine ⟨cs.takeWhile isBlank, List.takeWhile_append_dropWhile.symm,
    fun c hc ↦ List.mem_takeWhile_imp hc, ?_⟩
  intro c hc
  have hnot := List.head?_dropWhile_not isBlank cs
  rw [Option.mem_def.mp hc] at hnot
  simpa using hnot

theorem trimmed_trim (cs : List Char) : Trimmed cs (trim cs) := by
  obtain ⟨before, hcs, hbefore, hhead⟩ := exists_dropWhile_isBlank cs
  obtain ⟨after, hrest, hafter, hlast⟩ := exists_dropWhile_isBlank (trimStart cs).reverse
  have hstart : trimStart cs = trim cs ++ after.reverse := by
    rw [trim, trimEnd, ← List.reverse_append, ← hrest, List.reverse_reverse]
  refine ⟨⟨before, after.reverse, ?_, hbefore, ?_⟩, ?_, ?_⟩
  · rw [List.append_assoc, ← hstart]
    exact hcs
  · intro c hc
    exact hafter c (List.mem_reverse.mp hc)
  · intro c hc
    refine hhead c ?_
    change c ∈ (trimStart cs).head?
    rw [hstart, List.head?_append, Option.mem_def.mp hc]
    rfl
  · intro c hc
    rw [trim, trimEnd, List.getLast?_reverse] at hc
    exact hlast c hc

/-- There is one text without the blanks at its ends. -/
theorem trimmed_iff {cs core : List Char} : Trimmed cs core ↔ core = trim cs := by
  constructor
  · rintro ⟨⟨before, after, rfl, hbefore, hafter⟩, hhead, hlast⟩
    have hblank : ∀ c ∈ after.reverse, isBlank c = true :=
      fun c hc ↦ hafter c (List.mem_reverse.mp hc)
    cases hcore : core with
    | nil =>
      have hstart : trimStart (before ++ [] ++ after) = [] := by
        rw [trimStart, List.append_nil, List.dropWhile_append_of_pos hbefore]
        exact List.dropWhile_eq_nil_iff.mpr hafter
      rw [trim, hstart]
      rfl
    | cons c rest =>
      rw [← hcore]
      have hstart : trimStart (before ++ core ++ after) = core ++ after := by
        rw [trimStart, List.append_assoc]
        refine dropWhile_isBlank_append hbefore ?_
        intro d hd
        rw [hcore] at hhead hd
        exact hhead d hd
      rw [trim, hstart, trimEnd, List.reverse_append,
        dropWhile_isBlank_append hblank (by simpa using hlast), List.reverse_reverse]
  · rintro rfl
    exact trimmed_trim cs

/-! ### The first dash -/

section Split

variable {α : Type} [DecidableEq α] {a : α} {xs before rest : List α}

/-- What stands around the first of its kind. -/
theorem splitAtFirst_eq_some_iff :
    splitAtFirst a xs = (before, some rest) ↔ xs = before ++ a :: rest ∧ a ∉ before := by
  constructor
  · intro h
    by_cases hmem : a ∈ xs
    · obtain ⟨before', rest', rfl, hnot⟩ := List.eq_append_cons_of_mem hmem
      rw [splitAtFirst_append hnot] at h
      obtain ⟨rfl, hrest⟩ := Prod.mk.inj h
      rw [Option.some.inj hrest]
      exact ⟨rfl, hnot⟩
    · rw [splitAtFirst_of_not_mem hmem] at h
      exact absurd (Prod.mk.inj h).2 (by simp)
  · rintro ⟨rfl, hnot⟩
    exact splitAtFirst_append hnot rest

end Split

/-! ### Numerals -/

/-- Whether a text is a numeral of a number: one or more ASCII digits, with an optional `+` in
front. -/
def IsNumeral (cs : List Char) (n : Nat) : Prop :=
  ∃ ds, (cs = ds ∨ cs = '+' :: ds) ∧ ds ≠ [] ∧ (∀ c ∈ ds, c.isDigit = true) ∧
    Nat.ofDigitChars 10 ds 0 = n

variable {cs : List Char} {n : Nat}

theorem natOfDigits?_eq_some_iff : natOfDigits? cs = some n ↔
    cs ≠ [] ∧ (∀ c ∈ cs, c.isDigit = true) ∧ Nat.ofDigitChars 10 cs 0 = n := by
  rw [natOfDigits?, Option.ite_none_right_eq_some, List.all_eq_true, Option.some.injEq, and_assoc]

theorem natOfNumeral?_eq_some_iff : natOfNumeral? cs = some n ↔ IsNumeral cs n := by
  have hplus : '+'.isDigit = false := rfl
  constructor
  · intro h
    unfold natOfNumeral? at h
    split at h
    · next ds => exact ⟨ds, .inr rfl, natOfDigits?_eq_some_iff.mp h⟩
    · exact ⟨cs, .inl rfl, natOfDigits?_eq_some_iff.mp h⟩
  · rintro ⟨ds, rfl | rfl, hds⟩
    · rw [natOfNumeral?]
      · exact natOfDigits?_eq_some_iff.mpr hds
      · rintro ds' rfl
        exact ne_of_isDigit (hds.2.1 '+' List.mem_cons_self) hplus rfl
    · exact natOfDigits?_eq_some_iff.mpr hds

theorem IsNumeral.dash_not_mem (h : IsNumeral cs n) : '-' ∉ cs := by
  obtain ⟨ds, hcs, -, hall, -⟩ := h
  have hds : '-' ∉ ds := fun hmem ↦ ne_of_isDigit (hall '-' hmem) rfl rfl
  rcases hcs with rfl | rfl
  · exact hds
  · simpa using hds

theorem boundedNat?_eq_some_iff {bound : Nat} :
    boundedNat? bound cs = some n ↔ IsNumeral cs n ∧ n ≤ bound := by
  rw [boundedNat?, Option.filter_eq_some_iff, natOfNumeral?_eq_some_iff, decide_eq_true_iff]

/-- A signed numeral without a minus sign is a numeral. -/
theorem boundedInt?_eq_some_iff {low high z : Int} (h : '-' ∉ cs) :
    boundedInt? low high cs = some z ↔
      ∃ n : Nat, IsNumeral cs n ∧ z = n ∧ low ≤ z ∧ z ≤ high := by
  have hint : intOfNumeral? cs = (natOfNumeral? cs).map fun n : Nat ↦ (n : Int) := by
    rw [intOfNumeral?]
    · cases natOfNumeral? cs <;> rfl
    · rintro ds rfl
      exact h List.mem_cons_self
  rw [boundedInt?, Option.filter_eq_some_iff, hint, Option.map_eq_some_iff]
  simp only [natOfNumeral?_eq_some_iff, Bool.and_eq_true, decide_eq_true_eq]
  constructor
  · rintro ⟨⟨n, hn, rfl⟩, hbounds⟩
    exact ⟨n, hn, rfl, hbounds⟩
  · rintro ⟨n, hn, rfl, hbounds⟩
    exact ⟨⟨n, hn, rfl⟩, hbounds⟩

/-- A signed number is told by its padded numeral. -/
theorem paddedInt_inj {width : Nat} {a b : Int} (h : paddedInt width a = paddedInt width b) :
    a = b := by
  have hminus {w n : Nat} : '-' ∉ paddedDigits w n := not_mem_paddedDigits rfl
  unfold paddedInt at h
  split at h <;> split at h
  · have := paddedDigits_inj.mp (List.cons.inj h).2
    omega
  · exact absurd (h ▸ List.mem_cons_self) hminus
  · exact absurd (h ▸ List.mem_cons_self) hminus
  · have := paddedDigits_inj.mp h
    omega

end UsageReports
