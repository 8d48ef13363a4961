import UsageReports.Proofs.Json.Numeral
import UsageReports.Proofs.Json.Tree

/-!
# Numbers of documents

A whole number of 64 bits is read from its own numeral. What a double is read as depends on rounding:
if it is read back from its numeral alone, then also inside a document.
-/

namespace UsageReports.Json

/-! ### Reading a number -/

theorem not_isSpace_of_isDigit {c : Char} (h : c.isDigit = true) : isSpace c = false := by
  have hne {d : Char} (hd : d.isDigit = false) : c ≠ d := ne_of_isDigit h hd
  simp [isSpace, hne (d := ' ') rfl, hne (d := '\n') rfl, hne (d := '\t') rfl,
    hne (d := '\r') rfl]

section Value

variable {c : Char} {cs rest : List Char} {fuel : Nat}

theorem value?_of_isDigit (hc : c.isDigit = true) :
    value? (fuel + 1) (c :: cs) =
      (numeral? false (c :: cs)).map fun p ↦ (p.1.toData, p.2) := by
  have hspace : ¬ isSpace c = true := by simp [not_isSpace_of_isDigit hc]
  have hne {d : Char} {ds : List Char} (heq : c :: cs = d :: ds) (hd : d.isDigit = false) : False :=
    ne_of_isDigit hc hd (List.cons.inj heq).1
  unfold value?
  rw [List.dropWhile_cons_of_neg hspace]
  split
  · next heq => exact (hne heq rfl).elim
  · next heq => exact (hne heq rfl).elim
  · next heq => exact (hne heq rfl).elim
  · next heq => exact (hne heq rfl).elim
  · next heq => exact (hne heq rfl).elim
  · next heq => exact (hne heq rfl).elim
  · next heq => exact (hne heq rfl).elim
  · rfl

theorem value?_minus : value? (fuel + 1) ('-' :: cs) =
    (numeral? true cs).map fun p ↦ (p.1.toData, p.2) := by
  rfl

end Value

/-- Whether a text is a numeral that stands for a piece of data. -/
inductive Denotes : List Char → Data → Prop
  | plain {cs : List Char} {n : Numeral} (h : numeral? false cs = some (n, [])) :
      Denotes cs n.toData
  | minus {cs : List Char} {n : Numeral} (h : numeral? true cs = some (n, [])) :
      Denotes ('-' :: cs) n.toData

namespace Denotes

variable {cs rest : List Char} {d : Data} {fuel : Nat}

theorem exists_isDigit_cons {negative : Bool} {p : Numeral × List Char}
    (h : numeral? negative cs = some p) : ∃ c r, cs = c :: r ∧ c.isDigit = true := by
  rw [numeral?_eq] at h
  obtain ⟨⟨hne, -⟩, -⟩ := Option.ite_none_right_eq_some.mp h
  cases cs with
  | nil => exact absurd rfl hne
  | cons c r =>
    refine ⟨c, r, rfl, ?_⟩
    by_contra hc
    exact hne (List.takeWhile_cons_of_neg hc)

/-- A numeral starts with a digit or a minus sign. -/
theorem exists_cons (h : Denotes cs d) : ∃ c r, cs = c :: r ∧ (c.isDigit = true ∨ c = '-') := by
  cases h with
  | plain h =>
    obtain ⟨c, r, hcs, hc⟩ := exists_isDigit_cons h
    exact ⟨c, r, hcs, .inl hc⟩
  | minus h => exact ⟨_, _, rfl, .inr rfl⟩

/-- A numeral is read as what it stands for, whatever follows where it ends. -/
theorem value? (h : Denotes cs d) (hrest : EndsNumeral rest) :
    Json.value? (fuel + 1) (cs ++ rest) = some (d, rest) := by
  cases h with
  | plain h =>
    have hread := numeral?_append hrest h
    obtain ⟨c, r, rfl, hc⟩ := exists_isDigit_cons h
    rw [List.cons_append] at hread ⊢
    rw [value?_of_isDigit hc, hread]
    rfl
  | minus h =>
    rw [List.cons_append, value?_minus, numeral?_append hrest h]
    rfl

end Denotes

/-! ### Whole numbers -/

/-- The digits of a number start with no zero, unless it is their only one. -/
theorem isWhole_digits (n : Nat) : IsWhole (digits n) := by
  refine ⟨Nat.toDigits_ne_nil, ?_⟩
  rintro ⟨hzero, hlong⟩
  obtain ⟨ds, hds⟩ := List.head?_eq_some_iff.mp hzero
  have hall : ∀ c ∈ ds, c.isDigit = true := fun c hc ↦
    Nat.isDigit_of_mem_toDigits (by decide) (by decide) (hds ▸ List.mem_cons_of_mem _ hc)
  have hvalue : n = Nat.ofDigitChars 10 ds 0 := by
    rw [← @Nat.ofDigitChars_ten_toDigits n]
    change Nat.ofDigitChars 10 (digits n) 0 = _
    rw [hds]
    rfl
  rw [hds, List.length_cons] at hlong
  have hle : (digits n).length ≤ ds.length :=
    (Nat.length_toDigits_le_iff (by decide) (by omega)).mpr (hvalue ▸ ofDigitChars_lt hall)
  rw [hds, List.length_cons] at hle
  omega

theorem numeral?_digits (negative : Bool) (n : Nat) :
    numeral? negative (digits n) = some (⟨negative, digits n, none, none⟩, []) := by
  have hall : ∀ c ∈ digits n, c.isDigit = true := fun c hc ↦
    Nat.isDigit_of_mem_toDigits (by decide) (by decide) hc
  have htake : (digits n).takeWhile Char.isDigit = digits n := by
    rw [← List.append_nil (digits n), List.takeWhile_append_of_pos hall]
    simp
  have hdrop : (digits n).dropWhile Char.isDigit = [] := List.dropWhile_eq_nil_iff.mpr hall
  rw [numeral?_eq, htake, if_pos (isWhole_digits n), hdrop]
  rfl

/-- Digits whose value fits 64 bits are taken in to the last. -/
theorem absorb_of_le {cs : List Char} {significand : Nat}
    (h : Nat.ofDigitChars 10 cs significand ≤ maxUInt64) :
    absorb significand cs = (Nat.ofDigitChars 10 cs significand, []) := by
  induction cs generalizing significand with
  | nil => rfl
  | cons c cs ih =>
    rw [Nat.ofDigitChars_cons] at h ⊢
    have hnext : significand * 10 + (c.toNat - 48) = 10 * significand + (c.toNat - '0'.toNat) := by
      rw [Nat.mul_comm]
      rfl
    have hle : 10 * significand + (c.toNat - '0'.toNat) ≤ maxUInt64 := by
      refine Nat.le_trans ?_ h
      rw [Nat.ofDigitChars_eq_ofDigitChars_zero]
      refine Nat.le_trans ?_ (Nat.le_add_right _ _)
      exact Nat.le_mul_of_pos_left _ (Nat.pow_pos (by decide))
    rw [absorb, hnext, if_pos hle, ih h]

theorem absorb_digits {n : Nat} (h : n ≤ maxUInt64) : absorb 0 (digits n) = (n, []) := by
  have hvalue : Nat.ofDigitChars 10 (digits n) 0 = n := Nat.ofDigitChars_ten_toDigits
  rw [absorb_of_le (by rwa [hvalue]), hvalue]

theorem toData_digits {n : Nat} (h : n ≤ maxUInt64) :
    (⟨false, digits n, none, none⟩ : Numeral).toData = .int n := by
  simp only [Numeral.toData, absorb_digits h]
  rfl

theorem toData_minus_digits {n : Nat} (hpos : 0 < n) (h : n ≤ 2 ^ 63) :
    (⟨true, digits n, none, none⟩ : Numeral).toData = .int (-n) := by
  have hle : n ≤ maxUInt64 := by
    unfold maxUInt64
    omega
  simp only [Numeral.toData, absorb_digits hle]
  rw [if_neg (by simp), if_neg (by simp), if_pos ⟨hpos, h⟩]

/-- A whole number of 64 bits, signed or unsigned, is read from its numeral. -/
theorem denotes_decimal {n : Int} (hlow : -maxInt64 - 1 ≤ n) (hhigh : n ≤ maxUInt64) :
    Denotes (decimal n) (.int n) := by
  have hpadded (width : Nat) (h : width = 0) : paddedDigits width n.natAbs = digits n.natAbs := by
    rw [h, paddedDigits, padded, Nat.zero_sub]
    rfl
  unfold maxInt64 at hlow
  unfold decimal paddedInt
  split
  · next hneg =>
    have hdata := toData_minus_digits (n := n.natAbs) (by omega) (by omega)
    rw [hpadded _ rfl, show n = -(n.natAbs : Int) by omega, ← hdata, Int.natAbs_neg,
      Int.natAbs_natCast]
    exact .minus (numeral?_digits true n.natAbs)
  · next hneg =>
    have hdata := toData_digits (n := n.natAbs) (by omega)
    rw [hpadded _ rfl, show n = (n.natAbs : Int) by omega, ← hdata, Int.natAbs_natCast]
    exact .plain (numeral?_digits false n.natAbs)

/-! ### Doubles -/

section Chars

/-- Whether a character may stand in the numeral of a double. -/
def IsDoubleChar (c : Char) : Prop := c.isDigit = true ∨ c = '-' ∨ c = '.' ∨ c = 'e'

theorem isDoubleChar_of_mem_digits {n : Nat} : ∀ c ∈ digits n, IsDoubleChar c :=
  fun _ h ↦ .inl (Nat.isDigit_of_mem_toDigits (by decide) (by decide) h)

theorem isDoubleChar_of_mem_zeros {n : Nat} : ∀ c ∈ List.replicate n '0', IsDoubleChar c :=
  fun _ h ↦ .inl (List.eq_of_mem_replicate h ▸ rfl)

theorem isDoubleChar_of_mem_decimal {n : Int} : ∀ c ∈ decimal n, IsDoubleChar c := by
  have hpadded {width n : Nat} : ∀ c ∈ paddedDigits width n, IsDoubleChar c :=
    fun _ h ↦ .inl (isDigit_of_mem_paddedDigits h)
  unfold decimal paddedInt
  split
  · exact List.forall_mem_cons.mpr ⟨.inr (.inl rfl), hpadded⟩
  · exact hpadded

/-- The numeral of a double has digits, signs, a point and the letter of an exponent. -/
theorem isDoubleChar_of_mem {bits : UInt64} : ∀ c ∈ doubleChars bits, IsDoubleChar c := by
  have hzero : IsDoubleChar '0' := .inl rfl
  have hpoint : IsDoubleChar '.' := .inr (.inr (.inl rfl))
  have hsign : ∀ c ∈ if bits.toNat / Nat.pow 2 63 = 1 then ['-'] else [], IsDoubleChar c := by
    split
    · exact List.forall_mem_cons.mpr ⟨.inr (.inl rfl), by simp⟩
    · simp
  have hds {n k : Nat} : (∀ c ∈ (digits n).take k, IsDoubleChar c) ∧
      ∀ c ∈ (digits n).drop k, IsDoubleChar c :=
    ⟨fun c h ↦ isDoubleChar_of_mem_digits c (List.mem_of_mem_take h),
      fun c h ↦ isDoubleChar_of_mem_digits c (List.mem_of_mem_drop h)⟩
  unfold doubleChars
  simp only
  split
  · exact List.forall_mem_append.mpr ⟨hsign, by simp [hzero, hpoint]⟩
  · refine List.forall_mem_append.mpr ⟨hsign, ?_⟩
    split
    · simp only [List.forall_mem_append, List.forall_mem_cons]
      exact ⟨⟨isDoubleChar_of_mem_digits, isDoubleChar_of_mem_zeros⟩, hpoint, hzero, by simp⟩
    · split
      · simp only [List.forall_mem_append, List.forall_mem_cons]
        exact ⟨hds.1, hpoint, hds.2⟩
      · split
        · simp only [List.forall_mem_append, List.forall_mem_cons]
          exact ⟨⟨hzero, hpoint, isDoubleChar_of_mem_zeros⟩, isDoubleChar_of_mem_digits⟩
        · simp only [List.forall_mem_append, List.forall_mem_cons]
          refine ⟨⟨hds.1, ?_⟩, .inr (.inr (.inr rfl)), isDoubleChar_of_mem_decimal⟩
          split
          · simp
          · exact List.forall_mem_cons.mpr ⟨hpoint, hds.2⟩

theorem IsDoubleChar.not_isSpace {c : Char} (h : IsDoubleChar c) : isSpace c = false := by
  rcases h with hc | rfl | rfl | rfl
  · exact not_isSpace_of_isDigit hc
  · rfl
  · rfl
  · rfl

end Chars

theorem tableOf_ne_double (entries : List (Option String × Data)) (bits : UInt64) :
    tableOf entries ≠ .double bits := by
  unfold tableOf
  split <;> simp

/-- A double is read only from a numeral. -/
theorem denotes_of_value? {cs rest : List Char} {fuel : Nat} {bits : UInt64}
    (hspace : ∀ c ∈ cs, isSpace c = false) (h : value? (fuel + 1) cs = some (.double bits, rest))
    (hrest : ∀ c ∈ rest, isSpace c = true) : Denotes cs (.double bits) := by
  have hdrop : cs.dropWhile isSpace = cs := by
    cases cs with
    | nil => rfl
    | cons c cs => exact List.dropWhile_cons_of_neg (by simp [hspace c List.mem_cons_self])
  -- What is left is blank and part of a text without blanks.
  have hnil (hsuffix : rest <:+ cs) : rest = [] := by
    apply List.eq_nil_iff_forall_not_mem.mpr
    intro c hc
    have := hspace c (hsuffix.subset hc)
    rw [hrest c hc] at this
    contradiction
  unfold value? at h
  rw [hdrop] at h
  split at h
  · simp at h
  · simp at h
  · simp at h
  · obtain ⟨⟨us, r⟩, -, h⟩ := Option.bind_eq_some_iff.mp h
    dsimp only at h
    split at h <;> simp at h
  · split at h
    · simp at h
    · obtain ⟨p, -, h⟩ := Option.map_eq_some_iff.mp h
      simp at h
  · split at h
    · simp at h
    · obtain ⟨p, -, h⟩ := Option.map_eq_some_iff.mp h
      exact absurd (Prod.mk.inj h).1 (tableOf_ne_double _ _)
  · obtain ⟨⟨n, r⟩, hread, h⟩ := Option.map_eq_some_iff.mp h
    obtain ⟨hdata, rfl⟩ := Prod.mk.inj h
    obtain rfl := hnil ((suffix_of_numeral? hread).trans (List.suffix_cons _ _))
    exact hdata ▸ .minus hread
  · obtain ⟨⟨n, r⟩, hread, h⟩ := Option.map_eq_some_iff.mp h
    obtain ⟨hdata, rfl⟩ := Prod.mk.inj h
    obtain rfl := hnil (suffix_of_numeral? hread)
    exact hdata ▸ .plain hread

/-- Whether a double is read back from its numeral. -/
def ReadsBack (bits : UInt64) : Prop := ofText? (Json.double bits).text = some (.double bits)

/-- A double that is read back from its numeral alone is read from it anywhere. -/
theorem ReadsBack.denotes {bits : UInt64} (h : ReadsBack bits) :
    Denotes (doubleChars bits) (.double bits) := by
  obtain ⟨d, hd, hdata⟩ := Option.bind_eq_some_iff.mp h
  obtain rfl := eq_data_of_isScalar hdata trivial
  have htext : (Json.double bits).text.toList = doubleChars bits := String.toList_ofList
  simp only [document?, htext] at hd
  split at hd
  · next d' rest hread =>
    obtain ⟨hall, hd⟩ := Option.ite_none_right_eq_some.mp hd
    rw [Option.some.inj hd] at hread
    exact denotes_of_value? (fun c hc ↦ (isDoubleChar_of_mem c hc).not_isSpace) hread
      (List.all_eq_true.mp hall)
  · contradiction

end UsageReports.Json
