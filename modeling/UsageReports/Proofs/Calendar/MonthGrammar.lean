import UsageReports.Proofs.Calendar.MonthText
import UsageReports.Proofs.Text.Spelling

/-!
# Which texts are months

A text is read as a month exactly if, without the blanks at its ends, it spells the month: the
numerals of a year and a month number with a dash between them, then nothing or a second dash with
anything after it. A month reads back from its own text exactly if its year is not negative; the text
of an earlier one starts with the dash of its sign, and no month is read from it.
-/

namespace UsageReports.Month

/-- Whether a text has the form `Y-M` or `Y-M-rest`, with numerals of `year` and `number`. -/
def HasNumerals (cs : List Char) (year number : Nat) : Prop :=
  ∃ ys ns tail, cs = ys ++ '-' :: (ns ++ tail) ∧ (tail = [] ∨ ∃ rest, tail = '-' :: rest) ∧
    IsNumeral ys year ∧ IsNumeral ns number

/-- Whether a text spells a month. The years that can be spelt end with the calendar. -/
def Spells (m : Month) (cs : List Char) : Prop :=
  ∃ year : Nat, HasNumerals cs year m.number ∧ m.year = year ∧ year ≤ 262142

/-- What is said of a text that spells no month. -/
inductive Refuses (cs : List Char) : RangeError → Prop
  | unreadable (long : ∀ year number, HasNumerals cs year number →
      maxInt32 < year ∨ maxUInt32 < number) : Refuses cs (.unreadable (String.ofList cs))
  | number {year number : Nat} (numerals : HasNumerals cs year number)
      (outside : ¬(1 ≤ number ∧ number ≤ 12)) : Refuses cs (.monthOutOfRange number)
  | year {year number : Nat} (numerals : HasNumerals cs year number) (late : 262142 < year) :
      Refuses cs (.yearOutOfRange year)

variable {cs : List Char} {m : Month}

/-- The second numeral ends at the second dash. -/
theorem splitAtFirst_dash {ns tail : List Char} (hns : '-' ∉ ns)
    (htail : tail = [] ∨ ∃ rest, tail = '-' :: rest) : (splitAtFirst '-' (ns ++ tail)).1 = ns := by
  rcases htail with rfl | ⟨rest, rfl⟩
  · rw [List.append_nil, splitAtFirst_of_not_mem hns]
  · rw [splitAtFirst_append hns]

theorem exists_splitAtFirst_dash (cs : List Char) :
    ∃ tail, cs = (splitAtFirst '-' cs).1 ++ tail ∧ (tail = [] ∨ ∃ rest, tail = '-' :: rest) := by
  by_cases h : '-' ∈ cs
  · obtain ⟨before, rest, hcs, hnot⟩ := List.eq_append_cons_of_mem h
    refine ⟨'-' :: rest, ?_, .inr ⟨rest, rfl⟩⟩
    rw [splitAtFirst_eq_some_iff.mpr ⟨hcs, hnot⟩]
    exact hcs
  · refine ⟨[], ?_, .inl rfl⟩
    rw [splitAtFirst_of_not_mem h, List.append_nil]

/-- The numerals of a text are read if they fit 32 bits. -/
theorem numerals?_eq_some_iff {y : Int} {number : Nat} : numerals? cs = some (y, number) ↔
    ∃ year : Nat, HasNumerals cs year number ∧ y = year ∧ y ≤ maxInt32 ∧ number ≤ maxUInt32 := by
  constructor
  · intro h
    unfold numerals? at h
    split at h
    · next ys rest hsplit =>
      obtain ⟨rfl, hdash⟩ := splitAtFirst_eq_some_iff.mp hsplit
      obtain ⟨z, hyear, h⟩ := Option.bind_eq_some_iff.mp h
      obtain ⟨n, hnumber, h⟩ := Option.bind_eq_some_iff.mp h
      obtain ⟨rfl, rfl⟩ := Prod.mk.inj (Option.some.inj h)
      obtain ⟨year, hys, hz, -, hle⟩ := (boundedInt?_eq_some_iff hdash).mp hyear
      obtain ⟨hns, hle'⟩ := boundedNat?_eq_some_iff.mp hnumber
      obtain ⟨tail, hrest, htail⟩ := exists_splitAtFirst_dash rest
      exact ⟨year, ⟨ys, _, tail, congrArg (ys ++ '-' :: ·) hrest, htail, hys, hns⟩, hz, hle, hle'⟩
    · contradiction
  · rintro ⟨year, ⟨ys, ns, tail, rfl, htail, hys, hns⟩, rfl, hle, hle'⟩
    have hyear : int32OfNumeral? ys = some (year : Int) := by
      refine (boundedInt?_eq_some_iff hys.dash_not_mem).mpr ⟨year, hys, rfl, ?_, hle⟩
      unfold maxInt32
      omega
    have hnumber : uint32OfNumeral? ns = some number := boundedNat?_eq_some_iff.mpr ⟨hns, hle'⟩
    rw [numerals?, splitAtFirst_append hys.dash_not_mem]
    simp only [splitAtFirst_dash hns.dash_not_mem htail, hyear, hnumber]
    rfl

/-! ### Which numbers are months -/

theorem ofNumbers_eq_ok_iff {year : Int} {number : Nat} : ofNumbers year number = .ok m ↔
    m.year = year ∧ m.number = number ∧ firstYear ≤ year ∧ year ≤ lastYear := by
  constructor
  · intro h
    unfold ofNumbers at h
    split at h
    · split at h
      · next hyear =>
        rw [← Except.ok.inj h]
        exact ⟨rfl, rfl, hyear⟩
      · contradiction
    · contradiction
  · rintro ⟨rfl, rfl, hyear⟩
    rw [ofNumbers, dif_pos ⟨m.one_le, m.le_twelve⟩, if_pos hyear]

/-- A text is read as the month that it spells. -/
theorem ofText_eq_ok_iff {s : String} : ofText s = .ok m ↔ m.Spells (trim s.toList) := by
  unfold ofText
  constructor
  · intro h
    dsimp only at h
    split at h
    · next y number hnumerals =>
      obtain ⟨year, hhas, rfl, -⟩ := numerals?_eq_some_iff.mp hnumerals
      obtain ⟨hyear, rfl, -, hlast⟩ := ofNumbers_eq_ok_iff.mp h
      exact ⟨year, hhas, hyear, by unfold lastYear at hlast; omega⟩
    · contradiction
  · rintro ⟨year, hhas, hyear, hle⟩
    have hnumerals : numerals? (trim s.toList) = some (m.year, m.number) := by
      refine numerals?_eq_some_iff.mpr ⟨year, hhas, hyear, ?_, ?_⟩
      · unfold maxInt32
        omega
      · have := m.le_twelve
        unfold maxUInt32
        omega
    simp only [hnumerals]
    refine ofNumbers_eq_ok_iff.mpr ⟨rfl, rfl, ?_, ?_⟩
    · unfold firstYear
      omega
    · unfold lastYear
      omega

/-- A month that was read is one of the calendar, from the year 0 on. -/
theorem year_of_ofText {s : String} (h : ofText s = .ok m) : 0 ≤ m.year ∧ m.year ≤ lastYear := by
  obtain ⟨year, -, hyear, hle⟩ := ofText_eq_ok_iff.mp h
  unfold lastYear
  omega

theorem refuses_of_ofText {s : String} {e : RangeError} (h : ofText s = .error e) :
    Refuses (trim s.toList) e := by
  unfold ofText at h
  dsimp only at h
  split at h
  · next y number hnumerals =>
    obtain ⟨year, hhas, rfl, -⟩ := numerals?_eq_some_iff.mp hnumerals
    unfold ofNumbers at h
    split at h
    · split at h
      · contradiction
      · next hyear =>
        rw [← Except.error.inj h]
        refine .year hhas ?_
        unfold firstYear lastYear at hyear
        omega
    · next hnumber =>
      rw [← Except.error.inj h]
      exact .number hhas hnumber
  · next hnone =>
    rw [← Except.error.inj h]
    refine .unreadable ?_
    intro year number hhas
    by_contra hfits
    obtain ⟨hyear, hnumber⟩ := not_or.mp hfits
    have hsome := numerals?_eq_some_iff.mpr
      ⟨year, hhas, rfl, Int.not_lt.mp hyear, Nat.not_lt.mp hnumber⟩
    rw [hnone] at hsome
    contradiction

/-- A text is read as a month exactly if it spells it, without the blanks at its ends; the month then
reads back from its own text. Any other text is refused. -/
theorem ofText_grammar (s : String) :
    (∀ m, ofText s = .ok m ↔ ∃ core, Trimmed s.toList core ∧ m.Spells core) ∧
    (∀ m, ofText s = .ok m → ofText m.text = .ok m) ∧
    ((¬∃ m core, Trimmed s.toList core ∧ Spells m core) →
      ∃ e core, ofText s = .error e ∧ Trimmed s.toList core ∧ Refuses core e) := by
  have hspells : ∀ m, ofText s = .ok m ↔ ∃ core, Trimmed s.toList core ∧ m.Spells core := by
    intro m
    simp only [trimmed_iff, exists_eq_left]
    exact ofText_eq_ok_iff
  refine ⟨hspells, fun m h ↦ ofText_text (year_of_ofText h).1 (year_of_ofText h).2, fun hno ↦ ?_⟩
  cases h : ofText s with
  | ok m => exact absurd ⟨m, (hspells m).mp h⟩ hno
  | error e => exact ⟨e, _, rfl, trimmed_trim _, refuses_of_ofText h⟩

/-! ### What is read of the text of a month -/

theorem chars_of_neg (h : m.year < 0) :
    m.chars = '-' :: (paddedDigits 3 m.year.natAbs ++ '-' :: paddedDigits 2 m.number) := by
  rw [chars, paddedInt, if_pos h]
  rfl

/-- The text of a month before the year 0 starts with a dash, so that it spells no month. -/
theorem ofText_text_of_neg (h : m.year < 0) : ofText m.text = .error (.unreadable m.text) := by
  have htrim : trim m.chars = m.chars := by
    apply trim_eq_self
    intro c hc
    rw [chars_of_neg h, List.mem_cons, List.mem_append, List.mem_cons] at hc
    rcases hc with rfl | hc | rfl | hc
    · rfl
    · exact not_isBlank_of_isDigit (isDigit_of_mem_paddedDigits hc)
    · rfl
    · exact not_isBlank_of_isDigit (isDigit_of_mem_paddedDigits hc)
  have hnumerals : numerals? m.chars = none := by
    rw [chars_of_neg h, numerals?, ← List.nil_append ('-' :: _), splitAtFirst_append (by simp)]
    rfl
  rw [ofText, text, String.toList_ofList, htrim, hnumerals]

/-- The year stands before the last dash, the number after it. -/
theorem chars_inj {a b : Month} (h : a.chars = b.chars) : a = b := by
  have hsplit (m : Month) : splitAtFirst '-' m.chars.reverse =
      ((paddedDigits 2 m.number).reverse, some (paddedInt 4 m.year).reverse) := by
    rw [chars, List.reverse_append, List.reverse_cons, List.append_assoc, List.singleton_append]
    apply splitAtFirst_append
    rw [List.mem_reverse]
    exact not_mem_paddedDigits rfl
  have hparts := hsplit a
  rw [h, hsplit b] at hparts
  obtain ⟨hnumber, hyear⟩ := Prod.mk.inj hparts
  have hnumber := paddedDigits_inj.mp (List.reverse_inj.mp hnumber)
  have hyear := paddedInt_inj (List.reverse_inj.mp (Option.some.inj hyear))
  obtain ⟨_, _, _, _⟩ := a
  cases hnumber
  cases hyear
  rfl

/-- A month of the calendar reads back from its text exactly if its year is not negative; else the
text is refused as unreadable. No other month has the same text. -/
theorem text_reads_back_iff {year : Int} {number : Nat} (h : ofNumbers year number = .ok m) :
    (ofText m.text = .ok m ↔ 0 ≤ year) ∧
    (year < 0 → ofText m.text = .error (.unreadable m.text)) ∧
    ∀ other : Month, other.text = m.text → other = m := by
  obtain ⟨rfl, -, -, hlast⟩ := ofNumbers_eq_ok_iff.mp h
  refine ⟨⟨fun hread ↦ (year_of_ofText hread).1, fun hyear ↦ ofText_text hyear hlast⟩,
    ofText_text_of_neg, ?_⟩
  intro other htext
  exact chars_inj (String.ofList_injective htext)

/-- The last month of the calendar and a month of its first year. -/
theorem text_reads_back_iff_at_both_ends :
    ofText (Month.text { year := 262142, number := 12 }) =
      .ok { year := 262142, number := 12 } ∧
    ofText (Month.text { year := -262143, number := 1 }) =
      .error (.unreadable (Month.text { year := -262143, number := 1 })) :=
  ⟨(text_reads_back_iff (show ofNumbers 262142 12 = .ok _ from rfl)).1.mpr (by decide),
    (text_reads_back_iff (show ofNumbers (-262143) 1 = .ok _ from rfl)).2.1 (by decide)⟩

/-- A month of the calendar that does not read back. -/
theorem may_before_year_zero_unread :
    ofNumbers (-1) 5 = .ok { year := -1, number := 5 } ∧
    ofText (Month.text { year := -1, number := 5 }) ≠ .ok { year := -1, number := 5 } := by
  refine ⟨rfl, ?_⟩
  rw [ofText_text_of_neg (by decide)]
  simp

end UsageReports.Month
