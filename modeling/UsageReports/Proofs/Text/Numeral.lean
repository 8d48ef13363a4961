import Mathlib.Algebra.Group.Nat.Defs
import Mathlib.Data.List.TakeWhile
import UsageReports.Text.Blank
import UsageReports.Text.Numeral
import UsageReports.Text.Split

/-!
# Reading numerals that were written

The padded digits of a number read back as the number, whatever stands around them. Numerals of one
width are in the order of their numbers.
-/

namespace UsageReports

/-! ### Digits -/

theorem isDigit_iff {c : Char} : c.isDigit = true ↔ 48 ≤ c.toNat ∧ c.toNat ≤ 57 := by
  simp only [Char.isDigit, Bool.and_eq_true, decide_eq_true_eq, UInt32.le_iff_toNat_le]
  rfl

theorem not_isBlank_of_isDigit {c : Char} (h : c.isDigit = true) : isBlank c = false := by
  have hrange := isDigit_iff.mp h
  simp [isBlank]
  omega

theorem ne_of_isDigit {c d : Char} (h : c.isDigit = true) (hd : d.isDigit = false) : c ≠ d := by
  rintro rfl
  rw [h] at hd
  contradiction

section PaddedDigits

variable (width n : Nat)

/-- Padded digits have the value of the number. -/
@[simp] theorem ofDigitChars_paddedDigits : Nat.ofDigitChars 10 (paddedDigits width n) 0 = n := by
  rw [paddedDigits, padded, digits, Nat.ofDigitChars_append, Nat.ofDigitChars_replicate_zero,
    Nat.mul_zero, Nat.ofDigitChars_ten_toDigits]

theorem paddedDigits_ne_nil : paddedDigits width n ≠ [] := by
  intro h
  exact Nat.toDigits_ne_nil (List.append_eq_nil_iff.mp h).2

variable {width n}

theorem isDigit_of_mem_paddedDigits {c : Char} (h : c ∈ paddedDigits width n) :
    c.isDigit = true := by
  rcases List.mem_append.mp h with hz | hd
  · rw [List.eq_of_mem_replicate hz]
    rfl
  · exact Nat.isDigit_of_mem_toDigits (by decide) (by decide) hd

theorem not_mem_paddedDigits {c : Char} (h : c.isDigit = false) : c ∉ paddedDigits width n :=
  fun hmem ↦ ne_of_isDigit (isDigit_of_mem_paddedDigits hmem) h rfl

/-- A number that fits the width is padded to it. -/
theorem length_paddedDigits (hw : 0 < width) (h : n < 10 ^ width) :
    (paddedDigits width n).length = width := by
  have hle : (digits n).length ≤ width := (Nat.length_toDigits_le_iff (by decide) hw).mpr h
  rw [paddedDigits, padded, List.length_append, List.length_replicate]
  omega

theorem natOfDigits?_paddedDigits : natOfDigits? (paddedDigits width n) = some n := by
  have hall : (paddedDigits width n).all Char.isDigit = true :=
    List.all_eq_true.mpr fun c hc ↦ isDigit_of_mem_paddedDigits hc
  rw [natOfDigits?, if_pos ⟨paddedDigits_ne_nil width n, hall⟩, ofDigitChars_paddedDigits]

/-- Padded digits start with a digit. -/
theorem exists_cons_paddedDigits (width n : Nat) :
    ∃ c cs, paddedDigits width n = c :: cs ∧ c.isDigit = true := by
  obtain ⟨c, cs, h⟩ := List.exists_cons_of_ne_nil (paddedDigits_ne_nil width n)
  exact ⟨c, cs, h, isDigit_of_mem_paddedDigits (h ▸ List.mem_cons_self)⟩

theorem natOfNumeral?_paddedDigits : natOfNumeral? (paddedDigits width n) = some n := by
  obtain ⟨c, cs, h, hc⟩ := exists_cons_paddedDigits width n
  rw [← @natOfDigits?_paddedDigits width n, h, natOfNumeral?]
  rintro cs' he
  exact ne_of_isDigit hc rfl (List.cons.inj he).1

theorem intOfNumeral?_paddedDigits : intOfNumeral? (paddedDigits width n) = some (n : Int) := by
  have hnat : natOfNumeral? (paddedDigits width n) = some n := natOfNumeral?_paddedDigits
  obtain ⟨c, cs, h, hc⟩ := exists_cons_paddedDigits width n
  rw [h] at hnat ⊢
  rw [intOfNumeral?, hnat]
  · rfl
  · rintro cs' he
    exact ne_of_isDigit hc rfl (List.cons.inj he).1

theorem boundedNat?_paddedDigits {bound : Nat} (h : n ≤ bound) :
    boundedNat? bound (paddedDigits width n) = some n := by
  rw [boundedNat?, natOfNumeral?_paddedDigits, Option.filter_some, if_pos (decide_eq_true h)]

theorem boundedInt?_paddedDigits {low high : Int} (hlow : low ≤ n) (hhigh : n ≤ high) :
    boundedInt? low high (paddedDigits width n) = some (n : Int) := by
  rw [boundedInt?, intOfNumeral?_paddedDigits, Option.filter_some, if_pos (by simp [hlow, hhigh])]

end PaddedDigits

/-! ### The order of numerals -/

theorem ofDigitChars_cons_eq (c : Char) (cs : List Char) :
    Nat.ofDigitChars 10 (c :: cs) 0 =
      10 ^ cs.length * (c.toNat - 48) + Nat.ofDigitChars 10 cs 0 := by
  rw [Nat.ofDigitChars_cons, Nat.mul_zero, Nat.zero_add, Nat.ofDigitChars_eq_ofDigitChars_zero]
  rfl

theorem ofDigitChars_lt {cs : List Char} (h : ∀ c ∈ cs, c.isDigit = true) :
    Nat.ofDigitChars 10 cs 0 < 10 ^ cs.length := by
  induction cs with
  | nil => exact Nat.one_pos
  | cons c cs ih =>
    obtain ⟨hc, hcs⟩ := List.forall_mem_cons.mp h
    have hdigit : c.toNat - 48 ≤ 9 := by
      have := isDigit_iff.mp hc
      omega
    have hrest := ih hcs
    have hmul : 10 ^ cs.length * (c.toNat - 48) ≤ 10 ^ cs.length * 9 :=
      Nat.mul_le_mul_left _ hdigit
    rw [ofDigitChars_cons_eq, List.length_cons, Nat.pow_succ]
    omega

/-- The higher place decides, the lower one where the higher are equal. -/
private theorem place_mul_add_lt_iff {place high high' low low' : Nat} (h : low < place)
    (h' : low' < place) : place * high + low < place * high' + low' ↔
      high < high' ∨ high = high' ∧ low < low' := by
  rcases Nat.lt_trichotomy high high' with hlt | rfl | hgt
  · have hmul : place * (high + 1) ≤ place * high' := Nat.mul_le_mul_left _ hlt
    rw [Nat.mul_succ] at hmul
    omega
  · omega
  · have hmul : place * (high' + 1) ≤ place * high := Nat.mul_le_mul_left _ hgt
    rw [Nat.mul_succ] at hmul
    omega

/-- Of two numerals with equally many digits the one before the other has the smaller value. -/
theorem lt_iff_ofDigitChars_lt {as bs : List Char} (hlen : as.length = bs.length)
    (ha : ∀ c ∈ as, c.isDigit = true) (hb : ∀ c ∈ bs, c.isDigit = true) :
    as < bs ↔ Nat.ofDigitChars 10 as 0 < Nat.ofDigitChars 10 bs 0 := by
  induction as generalizing bs with
  | nil =>
    rw [List.eq_nil_of_length_eq_zero hlen.symm]
    simp
  | cons a as ih =>
    obtain ⟨b, bs, rfl⟩ := List.exists_cons_of_length_eq_add_one hlen.symm
    obtain ⟨ha0, ha⟩ := List.forall_mem_cons.mp ha
    obtain ⟨hb0, hb⟩ := List.forall_mem_cons.mp hb
    have hrest := Nat.succ.inj hlen
    have hchar : a < b ↔ a.toNat < b.toNat := by
      rw [Char.lt_def, UInt32.lt_iff_toNat_lt]
      rfl
    have heq : a = b ↔ a.toNat = b.toNat := Char.toNat_inj.symm
    have hla := ofDigitChars_lt ha
    rw [hrest] at hla
    rw [List.cons_lt_cons_iff, ih hrest ha hb, ofDigitChars_cons_eq, ofDigitChars_cons_eq, hrest,
      place_mul_add_lt_iff hla (ofDigitChars_lt hb), hchar, heq]
    have := isDigit_iff.mp ha0
    have := isDigit_iff.mp hb0
    omega

/-- Of two padded numbers that fit the width the one before the other is smaller. -/
theorem paddedDigits_lt_iff {width m n : Nat} (hw : 0 < width) (hm : m < 10 ^ width)
    (hn : n < 10 ^ width) : paddedDigits width m < paddedDigits width n ↔ m < n := by
  have hlen : (paddedDigits width m).length = (paddedDigits width n).length := by
    rw [length_paddedDigits hw hm, length_paddedDigits hw hn]
  rw [lt_iff_ofDigitChars_lt hlen (fun _ ↦ isDigit_of_mem_paddedDigits)
    (fun _ ↦ isDigit_of_mem_paddedDigits), ofDigitChars_paddedDigits, ofDigitChars_paddedDigits]

theorem paddedDigits_inj {width m n : Nat} :
    paddedDigits width m = paddedDigits width n ↔ m = n := by
  constructor
  · intro h
    rw [← ofDigitChars_paddedDigits width m, h, ofDigitChars_paddedDigits]
  · rintro rfl
    rfl

/-- Texts whose beginnings are equally long are ordered by their beginnings first. -/
theorem append_lt_append_iff {as bs as' bs' : List Char} (hlen : as.length = bs.length) :
    as ++ as' < bs ++ bs' ↔ as < bs ∨ as = bs ∧ as' < bs' := by
  induction as generalizing bs with
  | nil =>
    rw [List.eq_nil_of_length_eq_zero hlen.symm]
    simp
  | cons a as ih =>
    obtain ⟨b, bs, rfl⟩ := List.exists_cons_of_length_eq_add_one hlen.symm
    rw [List.cons_append, List.cons_append, List.cons_lt_cons_iff, List.cons_lt_cons_iff,
      ih (Nat.succ.inj hlen), List.cons.injEq]
    grind

/-! ### What stands around numerals -/

theorem trim_eq_self {cs : List Char} (h : ∀ c ∈ cs, isBlank c = false) : trim cs = cs := by
  have hdrop {ds : List Char} (hd : ∀ c ∈ ds, isBlank c = false) : ds.dropWhile isBlank = ds := by
    cases ds with
    | nil => rfl
    | cons d ds => exact trimStart_cons_of_not_isBlank (hd d List.mem_cons_self)
  rw [trim, trimStart, hdrop h, trimEnd, hdrop, List.reverse_reverse]
  intro c hc
  exact h c (List.mem_reverse.mp hc)

section Split

variable {α : Type} [DecidableEq α] {a : α} {xs : List α}

theorem splitAtFirst_of_not_mem (h : a ∉ xs) : splitAtFirst a xs = (xs, none) := by
  have hnone : xs.dropWhile (· ≠ a) = [] := by
    apply List.dropWhile_eq_nil_iff.mpr
    intro x hx
    exact decide_eq_true fun he ↦ h (he ▸ hx)
  rw [splitAtFirst, hnone]

theorem splitAtFirst_append (h : a ∉ xs) (rest : List α) :
    splitAtFirst a (xs ++ a :: rest) = (xs, some rest) := by
  have hall : ∀ x ∈ xs, (decide (x ≠ a)) = true := fun x hx ↦ decide_eq_true fun he ↦ h (he ▸ hx)
  have hdrop : (xs ++ a :: rest).dropWhile (· ≠ a) = a :: rest := by
    rw [List.dropWhile_append_of_pos hall, List.dropWhile_cons_of_neg (by simp)]
  have htake : (xs ++ a :: rest).takeWhile (· ≠ a) = xs := by
    rw [List.takeWhile_append_of_pos hall, List.takeWhile_cons_of_neg (by simp), List.append_nil]
  rw [splitAtFirst, hdrop, htake]

end Split

end UsageReports
