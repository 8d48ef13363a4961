import UsageReports.Calendar.MonthText
import UsageReports.Proofs.Calendar.Interval
import UsageReports.Proofs.Text.Numeral

/-!
# Months written and read

The text of a month from the year 0 on reads back as the month. As long as the years have four
digits the texts of months are in the order of the months.
-/

namespace UsageReports.Month

/-- Whether the year of a month is written with four digits. -/
def FourDigit (m : Month) : Prop := 0 ≤ m.year ∧ m.year ≤ 9999

instance (m : Month) : Decidable m.FourDigit := inferInstanceAs (Decidable (_ ∧ _))

theorem chars_of_nonneg {m : Month} (h : 0 ≤ m.year) :
    m.chars = paddedDigits 4 m.year.natAbs ++ '-' :: paddedDigits 2 m.number := by
  rw [chars, paddedInt, if_neg (Int.not_lt.mpr h)]

theorem trim_chars {m : Month} (h : 0 ≤ m.year) : trim m.chars = m.chars := by
  apply trim_eq_self
  intro c hc
  rw [chars_of_nonneg h, List.mem_append, List.mem_cons] at hc
  rcases hc with hc | rfl | hc
  · exact not_isBlank_of_isDigit (isDigit_of_mem_paddedDigits hc)
  · rfl
  · exact not_isBlank_of_isDigit (isDigit_of_mem_paddedDigits hc)

theorem numerals?_chars {m : Month} (h : 0 ≤ m.year) (hlast : m.year ≤ lastYear) :
    numerals? m.chars = some (m.year, m.number) := by
  have hdash : '-'.isDigit = false := rfl
  have hyear : int32OfNumeral? (paddedDigits 4 m.year.natAbs) = some m.year := by
    unfold lastYear at hlast
    rw [int32OfNumeral?, boundedInt?_paddedDigits (by unfold maxInt32; omega)
      (by unfold maxInt32; omega), Int.natAbs_of_nonneg h]
  have hnumber : uint32OfNumeral? (paddedDigits 2 m.number) = some m.number := by
    have := m.le_twelve
    exact boundedNat?_paddedDigits (by unfold maxUInt32; omega)
  rw [chars_of_nonneg h, numerals?, splitAtFirst_append (not_mem_paddedDigits hdash)]
  simp only [splitAtFirst_of_not_mem (not_mem_paddedDigits hdash), hyear, hnumber]
  rfl

/-- A month of the calendar, from the year 0 on, reads back from its text. -/
theorem ofText_text {m : Month} (h : 0 ≤ m.year) (hlast : m.year ≤ lastYear) :
    ofText m.text = .ok m := by
  have hcalendar : firstYear ≤ m.year ∧ m.year ≤ lastYear := by
    unfold firstYear
    omega
  rw [ofText, text, String.toList_ofList, trim_chars h, numerals?_chars h hlast]
  simp only [ofNumbers, dif_pos (And.intro m.one_le m.le_twelve), if_pos hcalendar]

namespace FourDigit

variable {a b : Month}

theorem ofText_text (h : a.FourDigit) : ofText a.text = .ok a :=
  Month.ofText_text h.1 (by have := h.2; unfold lastYear; omega)

/-- Months with the same text are the same. -/
theorem text_inj (ha : a.FourDigit) (hb : b.FourDigit) : a.text = b.text ↔ a = b := by
  constructor
  · intro h
    have hread := ha.ofText_text
    rw [h, hb.ofText_text] at hread
    exact (Except.ok.inj hread).symm
  · rintro rfl
    rfl

theorem chars_lt_iff (ha : a.FourDigit) (hb : b.FourDigit) : a.chars < b.chars ↔ a < b := by
  obtain ⟨ha0, ha1⟩ := ha
  obtain ⟨hb0, hb1⟩ := hb
  have hya : a.year.natAbs < 10 ^ 4 := by omega
  have hyb : b.year.natAbs < 10 ^ 4 := by omega
  have hna : a.number < 10 ^ 2 := by have := a.le_twelve; omega
  have hnb : b.number < 10 ^ 2 := by have := b.le_twelve; omega
  have hlen : (paddedDigits 4 a.year.natAbs).length = (paddedDigits 4 b.year.natAbs).length := by
    rw [length_paddedDigits (by decide) hya, length_paddedDigits (by decide) hyb]
  have hdash : ¬ '-' < '-' := by decide
  rw [chars_of_nonneg ha0, chars_of_nonneg hb0, append_lt_append_iff hlen, List.cons_lt_cons_iff,
    paddedDigits_lt_iff (by decide) hya hyb, paddedDigits_lt_iff (by decide) hna hnb,
    paddedDigits_inj, lt_def]
  simp only [hdash, false_or, true_and]
  omega

/-- The texts of months are in the order of the months. -/
theorem text_le_iff (ha : a.FourDigit) (hb : b.FourDigit) : a.text ≤ b.text ↔ a ≤ b := by
  rw [← String.not_lt, String.lt_iff, text, text, String.toList_ofList,
    String.toList_ofList, chars_lt_iff hb ha, lt_iff_index_lt, le_iff_index_le, Int.not_lt]

end FourDigit
end UsageReports.Month
