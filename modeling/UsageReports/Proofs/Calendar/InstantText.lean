import UsageReports.Calendar.InstantText
import UsageReports.Proofs.Calendar.DayNumber
import UsageReports.Proofs.Calendar.MonthText

/-!
# Instants written and read

An instant that was read from text is written so that it reads back as it was, if its year in
universal time has four digits. With any other year it is written with a sign in front, and no such
text can be read.
-/

namespace UsageReports.Instant

/-! ### Reading the parts of a text -/

section Parts

variable {least most low high width n : Nat} {c : Char} {cs ds rest : List Char}

/-- Digits are read as a number, if no digit follows that could still be read. -/
theorem number?_append (hdigits : ∀ c ∈ ds, c.isDigit = true) (hne : ds ≠ [])
    (hleast : least ≤ ds.length) (hmost : ds.length ≤ most)
    (hrest : (rest.takeWhile Char.isDigit).take (most - ds.length) = []) :
    number? least most (ds ++ rest) = some (Nat.ofDigitChars 10 ds 0, rest) := by
  have htake : ((ds ++ rest).takeWhile Char.isDigit).take most = ds := by
    rw [List.takeWhile_append_of_pos hdigits, List.take_append, List.take_of_length_le hmost,
      hrest, List.append_nil]
  simp only [number?, htake, if_pos (And.intro hleast hne), List.drop_left]

theorem number?_paddedDigits (hwidth : 0 < width) (hn : n < 10 ^ width) (rest : List Char) :
    number? width width (paddedDigits width n ++ rest) = some (n, rest) := by
  have hlength := length_paddedDigits hwidth hn
  rw [number?_append (fun c hc ↦ isDigit_of_mem_paddedDigits hc) (paddedDigits_ne_nil width n)
    hlength.ge hlength.le, ofDigitChars_paddedDigits]
  rw [hlength, Nat.sub_self, List.take_zero]

theorem numberIn?_paddedDigits (hwidth : 0 < width) (hn : n < 10 ^ width) (hlow : low ≤ n)
    (hhigh : n ≤ high) (rest : List Char) :
    numberIn? width width low high (paddedDigits width n ++ rest) = some (n, rest) := by
  rw [numberIn?, number?_paddedDigits hwidth hn, Option.filter_some, if_pos]
  simp [hlow, hhigh]

/-- No number starts with something that is no digit. -/
theorem number?_cons_of_not_isDigit (hc : c.isDigit = false) :
    number? least most (c :: cs) = none := by
  have htake : ((c :: cs).takeWhile Char.isDigit).take most = [] := by
    rw [List.takeWhile_cons_of_neg (by simp [hc]), List.take_nil]
  simp only [number?, htake]
  exact if_neg fun h ↦ h.2 rfl

/-- A number that was read has no more digits than there may be, and leaves what follows them. -/
theorem number?_bounds (h : number? least most cs = some (n, rest)) :
    n < 10 ^ (cs.length - rest.length) ∧ cs.length - rest.length ≤ most := by
  unfold number? at h
  set ds := (cs.takeWhile Char.isDigit).take most with hds
  obtain ⟨-, h⟩ := Option.ite_none_right_eq_some.mp h
  obtain ⟨rfl, rfl⟩ := Prod.mk.inj (Option.some.inj h)
  have hprefix : ds <+: cs := (List.take_prefix _ _).trans (List.takeWhile_prefix _)
  have hlength : cs.length - (cs.drop ds.length).length = ds.length := by
    have := hprefix.length_le
    rw [List.length_drop]
    omega
  rw [hlength]
  constructor
  · exact ofDigitChars_lt fun c hc ↦ List.mem_takeWhile_imp (List.mem_of_mem_take hc)
  · exact List.length_take_le _ _

@[simp] theorem literal?_self (c : Char) (cs : List Char) : literal? c (c :: cs) = some cs :=
  if_pos rfl

/-- The decimal places of a fraction are read as nanoseconds. -/
theorem fraction?_places {nanos : Nat} (hwidth : 0 < width) (hwidth' : width ≤ 9)
    (hn : n < 10 ^ width) (hnanos : n * 10 ^ (9 - width) = nanos) (hc : c.isDigit = false) :
    fraction? ('.' :: (paddedDigits width n ++ c :: cs)) = some (nanos, c :: cs) := by
  have hlength := length_paddedDigits hwidth hn
  have hnone : (c :: cs).takeWhile Char.isDigit = [] := List.takeWhile_cons_of_neg (by simp [hc])
  have hread : number? 1 9 (paddedDigits width n ++ c :: cs) = some (n, c :: cs) := by
    rw [number?_append (fun c hc ↦ isDigit_of_mem_paddedDigits hc) (paddedDigits_ne_nil width n)
      (by omega) (by omega) (by rw [hnone, List.take_nil]), ofDigitChars_paddedDigits]
  have hplaces : (paddedDigits width n ++ c :: cs).length - (c :: cs).length = width := by
    rw [List.length_append, Nat.add_sub_cancel, hlength]
  simp only [fraction?, hread, Option.bind_eq_bind, Option.bind_some, hplaces,
    List.dropWhile_cons_of_neg (show ¬ c.isDigit = true by simp [hc])]
  exact congrArg (fun nanos ↦ some (nanos, c :: cs)) hnanos

/-- A fraction of a second reads back from its shortest form. -/
theorem fraction?_fractionChars {nanos : Nat} (h : nanos < nanosPerSecond)
    (hc : c.isDigit = false) (hdot : c ≠ '.') :
    fraction? (TimeOfDay.fractionChars nanos ++ c :: cs) = some (nanos, c :: cs) := by
  unfold nanosPerSecond at h
  unfold TimeOfDay.fractionChars
  split
  · next hzero =>
    rw [List.nil_append, fraction?, hzero]
    rintro cs' he
    exact hdot (List.cons.inj he).1
  · split
    · exact fraction?_places (by decide) (by decide) (by omega) (by omega) hc
    · split
      · exact fraction?_places (by decide) (by decide) (by omega) (by omega) hc
      · exact fraction?_places (by decide) (by decide) (by omega) (by omega) hc

/-- A fraction is less than a second. -/
theorem fraction?_lt {nanos : Nat} (h : fraction? cs = some (nanos, rest)) :
    nanos < nanosPerSecond := by
  unfold fraction? at h
  split at h
  · next cs =>
    obtain ⟨⟨n, rest'⟩, hread, h⟩ := Option.bind_eq_some_iff.mp h
    obtain ⟨hn, hplaces⟩ := number?_bounds hread
    obtain ⟨rfl, -⟩ := Prod.mk.inj (Option.some.inj h)
    calc n * 10 ^ (9 - (cs.length - rest'.length))
        < 10 ^ (cs.length - rest'.length) * 10 ^ (9 - (cs.length - rest'.length)) :=
          Nat.mul_lt_mul_of_pos_right hn (Nat.pow_pos (by decide))
      _ = 10 ^ 9 := by rw [← Nat.pow_add, Nat.add_sub_cancel' hplaces]
  · rw [← (Prod.mk.inj (Option.some.inj h)).1]
    decide

/-- An offset is a number of minutes. -/
theorem offset?_whole {colon : List Char → Option (List Char)} {offset : Int}
    (h : offset? colon cs = some (offset, rest)) : offset % 60 = 0 := by
  unfold offset? at h
  split at h
  · rw [← (Prod.mk.inj (Option.some.inj h)).1]
    rfl
  · rw [← (Prod.mk.inj (Option.some.inj h)).1]
    rfl
  · simp only [Option.bind_eq_bind, Option.bind_eq_some_iff] at h
    obtain ⟨⟨negative, _⟩, -, ⟨hours, _⟩, -, _, -, ⟨minutes, _⟩, -, h⟩ := h
    rw [← (Prod.mk.inj (Option.some.inj h)).1]
    split <;> omega

end Parts

/-! ### Reading and writing instants -/

variable {t : Instant}

/-- Whether an instant is regular: in a leap second only at the end of a minute. -/
def Regular (t : Instant) : Prop := nanosPerSecond ≤ t.nanos → t.second % 60 = 59

/-- What stands in the parts of a text is a regular instant. -/
theorem regular_of_ofParts? {year : Int} {month day hour minute second nanos : Nat} {offset : Int}
    (h : ofParts? year month day hour minute second nanos offset = some t)
    (hnanos : nanos < nanosPerSecond) (hoffset : offset % 60 = 0) : t.Regular := by
  simp only [ofParts?, Option.bind_eq_bind, Option.bind_eq_some_iff] at h
  obtain ⟨m, -, d, -, h⟩ := h
  obtain ⟨hlt, h⟩ := Option.dite_none_right_eq_some.mp h
  obtain ⟨-, h⟩ := Option.ite_none_right_eq_some.mp h
  rw [← Option.some.inj h]
  intro hleap
  by_cases hsecond : second = 60
  · simp only [hsecond, secondsPerDay]
    omega
  · simp only [if_neg hsecond, nanosPerSecond] at hleap hnanos
    omega

theorem regular_of_ofText? {s : String} (h : ofText? s = some t) : t.Regular := by
  simp only [ofText?, Option.bind_eq_bind, Option.bind_eq_some_iff] at h
  obtain ⟨_, -, _, -, _, -, _, -, _, -, _, -, _, -, _, -, _, -, _, -, _, -, ⟨nanos, _⟩, hnanos,
    ⟨offset, _⟩, hoffset, h⟩ := h
  obtain ⟨-, h⟩ := Option.ite_none_right_eq_some.mp h
  exact regular_of_ofParts? h (fraction?_lt hnanos) (offset?_whole hoffset)

/-- The date and the time of a regular instant of the calendar are the parts of the instant. -/
theorem ofParts?_date_time (h : t.Regular) (hcalendar : t.date.InCalendar) :
    ofParts? t.date.month.year t.date.month.number t.date.day (t.secondOfDay / 3600)
      (t.secondOfDay / 60 % 60) (t.secondOfDay % 60 + t.nanos / nanosPerSecond)
      (t.nanos % nanosPerSecond) 0 = some t := by
  have hmonth : Month.ofNumbers t.date.month.year t.date.month.number = .ok t.date.month := by
    rw [Month.ofNumbers, dif_pos ⟨t.date.month.one_le, t.date.month.le_twelve⟩]
    exact if_pos hcalendar
  have hdate : Date.ofMonth? t.date.month t.date.day = some t.date :=
    dif_pos ⟨⟨t.date.one_le, t.date.le_length⟩, hcalendar⟩
  have hday : t.date.dayNumber = t.second / secondsPerDay := Date.dayNumber_ofDayNumber _
  have hofday : (t.secondOfDay : Int) = t.second % secondsPerDay :=
    Int.toNat_of_nonneg (Int.emod_nonneg _ (by decide))
  have hnanos := t.nanos_lt
  -- A leap second is the sixtieth of its minute; its nanoseconds are counted from there.
  have htotal : t.nanos % nanosPerSecond +
      (if t.secondOfDay % 60 + t.nanos / nanosPerSecond = 60 then nanosPerSecond else 0) =
        t.nanos := by
    unfold Regular at h
    unfold nanosPerSecond secondsPerDay at *
    split <;> omega
  have hclock : t.secondOfDay / 3600 * 3600 + t.secondOfDay / 60 % 60 * 60 +
      min (t.secondOfDay % 60 + t.nanos / nanosPerSecond) 59 = t.secondOfDay := by
    unfold Regular at h
    unfold nanosPerSecond secondsPerDay at *
    omega
  have hseconds : t.date.dayNumber * secondsPerDay + (t.secondOfDay : Int) - 0 = t.second := by
    rw [hday, hofday]
    unfold secondsPerDay
    omega
  simp only [ofParts?, hmonth, Except.toOption, Option.bind_eq_bind, Option.bind_some, hdate,
    htotal, hclock, hseconds, dif_pos hnanos]
  exact if_pos hcalendar

/-- Reading what is written of a date and a time, part by part. -/
theorem ofText?_written (year month day hour minute second nanos : Nat) (hyear : year < 10 ^ 4)
    (hmonth : 1 ≤ month ∧ month ≤ 12) (hday : 1 ≤ day ∧ day ≤ 31) (hhour : hour ≤ 23)
    (hminute : minute ≤ 59) (hsecond : second ≤ 60) (hnanos : nanos < nanosPerSecond) :
    ofText? (String.ofList (paddedDigits 4 year ++ '-' :: (paddedDigits 2 month ++ '-' ::
      (paddedDigits 2 day ++ 'T' :: (paddedDigits 2 hour ++ ':' :: (paddedDigits 2 minute ++ ':' ::
        (paddedDigits 2 second ++ (TimeOfDay.fractionChars nanos ++ "+00:00".toList)))))))) =
      ofParts? year month day hour minute second nanos 0 := by
  have two {low high n : Nat} (hlow : low ≤ n) (hhigh : n ≤ high) (hwidth : high < 10 ^ 2)
      (rest : List Char) : numberIn? 2 2 low high (paddedDigits 2 n ++ rest) = some (n, rest) :=
    numberIn?_paddedDigits (by decide) (Nat.lt_of_le_of_lt hhigh hwidth) hlow hhigh rest
  have hfraction : fraction? (TimeOfDay.fractionChars nanos ++ '+' :: "00:00".toList) =
      some (nanos, '+' :: "00:00".toList) :=
    fraction?_fractionChars hnanos rfl (by decide)
  change fraction? (TimeOfDay.fractionChars nanos ++ "+00:00".toList) =
    some (nanos, "+00:00".toList) at hfraction
  have hoffset : offset? (literal? ':') "+00:00".toList = some (0, []) := by decide
  simp only [ofText?, String.toList_ofList, Option.bind_eq_bind, Option.bind_some, literal?_self,
    separator?, number?_paddedDigits (by decide) hyear, two hmonth.1 hmonth.2 (by decide),
    two hday.1 hday.2 (by decide), two (Nat.zero_le _) hhour (by decide),
    two (Nat.zero_le _) hminute (by decide), two (Nat.zero_le _) hsecond (by decide), hfraction,
    hoffset, if_true]

/-- A regular instant reads back from its text when its year has four digits. -/
theorem ofText?_text (h : t.Regular) (hyear : t.date.month.FourDigit) :
    ofText? t.text = some t := by
  have hcalendar : t.date.InCalendar := by
    obtain ⟨hlow, hhigh⟩ := hyear
    unfold Date.InCalendar firstYear lastYear
    omega
  have hsecond : t.secondOfDay < 86400 := by
    unfold secondOfDay secondsPerDay
    omega
  have hleap : t.nanos / nanosPerSecond ≤ 1 := by
    have := t.nanos_lt
    unfold nanosPerSecond
    omega
  have hyearChars : Date.yearChars t.date.month.year = paddedDigits 4 t.date.month.year.natAbs :=
    if_pos hyear
  have hyearAbs : (t.date.month.year.natAbs : Int) = t.date.month.year :=
    Int.natAbs_of_nonneg hyear.1
  have hwritten := ofText?_written t.date.month.year.natAbs t.date.month.number t.date.day
    (t.secondOfDay / 3600) (t.secondOfDay / 60 % 60)
    (t.secondOfDay % 60 + t.nanos / nanosPerSecond) (t.nanos % nanosPerSecond)
    (by have := hyear.2; omega) ⟨t.date.month.one_le, t.date.month.le_twelve⟩
    ⟨t.date.one_le, t.date.le_length.trans t.date.month.length_le⟩ (by omega) (by omega) (by omega)
    (Nat.mod_lt t.nanos (by decide : 0 < nanosPerSecond))
  rw [hyearAbs, ofParts?_date_time h hcalendar] at hwritten
  rw [← hwritten, text, localChars, Date.chars, hyearChars]
  simp only [TimeOfDay.chars, time, List.append_assoc, List.cons_append]

/-- An instant of any other year does not read back from its text. -/
theorem ofText?_text_eq_none (hyear : ¬ t.date.month.FourDigit) : ofText? t.text = none := by
  obtain ⟨sign, hsign, hyearChars⟩ : ∃ sign : Char, sign.isDigit = false ∧
      Date.yearChars t.date.month.year = sign :: paddedDigits 4 t.date.month.year.natAbs := by
    refine ⟨_, ?_, if_neg hyear⟩
    split <;> rfl
  rw [ofText?, text, String.toList_ofList, localChars, Date.chars, hyearChars]
  simp only [List.cons_append, number?_cons_of_not_isDigit hsign, Option.bind_eq_bind,
    Option.bind_none]

end UsageReports.Instant
