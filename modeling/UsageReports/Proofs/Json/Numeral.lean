import UsageReports.Json.Reader
import UsageReports.Json.Writer
import UsageReports.Proofs.Text.Numeral

/-!
# Numerals of documents

A numeral is read part by part, and each part ends where the next one or something else begins, so
that the same numeral is read whatever follows it.
-/

namespace UsageReports.Json

/-! ### The parts of a numeral -/

/-- One or more digits, and what follows them. -/
def digitsPart? (cs : List Char) : Option (List Char × List Char) :=
  if cs.takeWhile Char.isDigit = [] then none
  else some (cs.takeWhile Char.isDigit, cs.dropWhile Char.isDigit)

/-- The digits after the point, where there is one. -/
def fractionPart? : List Char → Option (Option (List Char) × List Char)
  | '.' :: r => (digitsPart? r).map fun p ↦ (some p.1, p.2)
  | r => some (none, r)

/-- The sign of an exponent: true for a minus sign. -/
def exponentSign : List Char → Bool × List Char
  | '+' :: r => (false, r)
  | '-' :: r => (true, r)
  | r => (false, r)

/-- The exponent, where there is one. -/
def exponentPart? : List Char → Option (Option (Bool × List Char) × List Char)
  | c :: r =>
    if c = 'e' ∨ c = 'E' then
      (digitsPart? (exponentSign r).2).map fun p ↦ (some ((exponentSign r).1, p.1), p.2)
    else some (none, c :: r)
  | [] => some (none, [])

/-- Whether digits are the whole part of a numeral: they have no leading zero. -/
def IsWhole (ds : List Char) : Prop := ds ≠ [] ∧ ¬(ds.head? = some '0' ∧ 1 < ds.length)

instance (ds : List Char) : Decidable (IsWhole ds) := inferInstanceAs (Decidable (_ ∧ _))

/-- A numeral is read part by part. -/
theorem numeral?_eq (negative : Bool) (cs : List Char) :
    numeral? negative cs =
      if IsWhole (cs.takeWhile Char.isDigit) then
        (fractionPart? (cs.dropWhile Char.isDigit)).bind fun f ↦
          (exponentPart? f.2).map fun e ↦ (⟨negative, cs.takeWhile Char.isDigit, f.1, e.1⟩, e.2)
      else none := by
  have hwhole : IsWhole (cs.takeWhile Char.isDigit) ↔
      ¬(cs.takeWhile Char.isDigit = [] ∨ ((cs.takeWhile Char.isDigit).head? = some '0' ∧
        1 < (cs.takeWhile Char.isDigit).length)) := not_or.symm
  simp only [numeral?, hwhole, ite_not]
  split
  · rfl
  · congr 1
    · generalize cs.dropWhile Char.isDigit = r
      split
      · rw [fractionPart?, digitsPart?]
        split <;> rfl
      · next hdot =>
        rw [fractionPart?]
        exact hdot
    · funext f
      obtain ⟨fraction, rest⟩ := f
      cases rest with
      | nil => rfl
      | cons c r =>
        simp only [exponentPart?]
        split
        · simp only [exponentSign, digitsPart?]
          split <;> simp only <;> split <;> rfl
        · rfl

/-! ### What follows a numeral -/

/-- Whether a numeral that stands in front of a text ends where the text begins. -/
def EndsNumeral (rest : List Char) : Prop :=
  ∀ c ∈ rest.head?, c.isDigit = false ∧ c ≠ '.' ∧ c ≠ 'e' ∧ c ≠ 'E'

section Append

variable {cs ds rest tail : List Char}

theorem span_isDigit_append (htail : EndsNumeral tail) (cs : List Char) :
    (cs ++ tail).takeWhile Char.isDigit = cs.takeWhile Char.isDigit ∧
    (cs ++ tail).dropWhile Char.isDigit = cs.dropWhile Char.isDigit ++ tail := by
  induction cs with
  | nil =>
    cases tail with
    | nil => exact ⟨rfl, rfl⟩
    | cons c tail =>
      have hc : ¬ c.isDigit = true := by simp [(htail c rfl).1]
      exact ⟨List.takeWhile_cons_of_neg hc, List.dropWhile_cons_of_neg hc⟩
  | cons c cs ih =>
    rw [List.cons_append, List.takeWhile_cons, List.takeWhile_cons, List.dropWhile_cons,
      List.dropWhile_cons, ih.1, ih.2]
    refine ⟨rfl, ?_⟩
    split <;> rfl

theorem digitsPart?_eq_some_iff : digitsPart? cs = some (ds, rest) ↔
    cs.takeWhile Char.isDigit ≠ [] ∧ cs.takeWhile Char.isDigit = ds ∧
      cs.dropWhile Char.isDigit = rest := by
  rw [digitsPart?, Option.ite_none_left_eq_some, Option.some.injEq, Prod.mk.injEq]

theorem digitsPart?_append (htail : EndsNumeral tail) (h : digitsPart? cs = some (ds, rest)) :
    digitsPart? (cs ++ tail) = some (ds, rest ++ tail) := by
  obtain ⟨hne, rfl, rfl⟩ := digitsPart?_eq_some_iff.mp h
  obtain ⟨htake, hdrop⟩ := span_isDigit_append htail cs
  exact digitsPart?_eq_some_iff.mpr ⟨htake ▸ hne, htake, hdrop⟩

theorem fractionPart?_append {fraction : Option (List Char)} (htail : EndsNumeral tail)
    (h : fractionPart? cs = some (fraction, rest)) :
    fractionPart? (cs ++ tail) = some (fraction, rest ++ tail) := by
  unfold fractionPart? at h
  split at h
  · obtain ⟨⟨ds, r⟩, hdigits, h⟩ := Option.map_eq_some_iff.mp h
    obtain ⟨rfl, rfl⟩ := Prod.mk.inj h
    rw [List.cons_append, fractionPart?, digitsPart?_append htail hdigits]
    rfl
  · next hdot =>
    obtain ⟨rfl, rfl⟩ := Prod.mk.inj (Option.some.inj h)
    rw [fractionPart?]
    intro r heq
    cases cs with
    | nil =>
      rw [List.nil_append] at heq
      rw [heq] at htail
      exact (htail '.' rfl).2.1 rfl
    | cons c cs =>
      obtain ⟨rfl, -⟩ := List.cons.inj heq
      exact hdot cs rfl

theorem exponentSign_append (h : cs ≠ []) :
    exponentSign (cs ++ tail) = ((exponentSign cs).1, (exponentSign cs).2 ++ tail) := by
  obtain ⟨c, r, rfl⟩ := List.exists_cons_of_ne_nil h
  by_cases hplus : c = '+'
  · rw [hplus]
    rfl
  · by_cases hminus : c = '-'
    · rw [hminus]
      rfl
    · have hself (r : List Char) : exponentSign (c :: r) = (false, c :: r) := by
        rw [exponentSign]
        · rintro r' heq
          exact hplus (List.cons.inj heq).1
        · rintro r' heq
          exact hminus (List.cons.inj heq).1
      rw [List.cons_append, hself, hself]
      rfl

theorem exponentPart?_append {exponent : Option (Bool × List Char)} (htail : EndsNumeral tail)
    (h : exponentPart? cs = some (exponent, rest)) :
    exponentPart? (cs ++ tail) = some (exponent, rest ++ tail) := by
  unfold exponentPart? at h
  split at h
  · next c r =>
    split at h
    · next he =>
      obtain ⟨⟨ds, r'⟩, hdigits, h⟩ := Option.map_eq_some_iff.mp h
      obtain ⟨rfl, rfl⟩ := Prod.mk.inj h
      have hr : r ≠ [] := by
        rintro rfl
        exact (digitsPart?_eq_some_iff.mp hdigits).1 rfl
      rw [List.cons_append, exponentPart?, if_pos he, exponentSign_append hr,
        digitsPart?_append htail hdigits]
      rfl
    · next he =>
      obtain ⟨rfl, rfl⟩ := Prod.mk.inj (Option.some.inj h)
      rw [List.cons_append, exponentPart?, if_neg he]
  · obtain ⟨rfl, rfl⟩ := Prod.mk.inj (Option.some.inj h)
    cases tail with
    | nil => rfl
    | cons c tail =>
      have hc := htail c rfl
      rw [List.nil_append, exponentPart?, if_neg (by simp [hc])]

variable {negative : Bool} {n : Numeral}

/-- The same numeral is read whatever follows where it ends. -/
theorem numeral?_append (htail : EndsNumeral tail) (h : numeral? negative cs = some (n, rest)) :
    numeral? negative (cs ++ tail) = some (n, rest ++ tail) := by
  rw [numeral?_eq] at h ⊢
  obtain ⟨hwhole, h⟩ := Option.ite_none_right_eq_some.mp h
  obtain ⟨⟨fraction, r⟩, hfraction, h⟩ := Option.bind_eq_some_iff.mp h
  obtain ⟨⟨exponent, r'⟩, hexponent, h⟩ := Option.map_eq_some_iff.mp h
  obtain ⟨rfl, rfl⟩ := Prod.mk.inj h
  obtain ⟨htake, hdrop⟩ := span_isDigit_append htail cs
  rw [htake, if_pos hwhole, hdrop, fractionPart?_append htail hfraction, Option.bind_some,
    exponentPart?_append htail hexponent]
  rfl

end Append

/-! ### What is left after a numeral -/

section Suffix

variable {cs ds rest : List Char}

theorem suffix_of_digitsPart? (h : digitsPart? cs = some (ds, rest)) : rest <:+ cs := by
  obtain ⟨-, -, rfl⟩ := digitsPart?_eq_some_iff.mp h
  exact List.dropWhile_suffix Char.isDigit

theorem suffix_of_fractionPart? {fraction : Option (List Char)}
    (h : fractionPart? cs = some (fraction, rest)) : rest <:+ cs := by
  unfold fractionPart? at h
  split at h
  · obtain ⟨⟨ds, r⟩, hdigits, h⟩ := Option.map_eq_some_iff.mp h
    obtain ⟨-, rfl⟩ := Prod.mk.inj h
    exact (suffix_of_digitsPart? hdigits).trans (List.suffix_cons _ _)
  · obtain ⟨-, rfl⟩ := Prod.mk.inj (Option.some.inj h)
    exact List.suffix_rfl

theorem exponentSign_suffix (cs : List Char) : (exponentSign cs).2 <:+ cs := by
  unfold exponentSign
  split
  · exact List.suffix_cons _ _
  · exact List.suffix_cons _ _
  · exact List.suffix_rfl

theorem suffix_of_exponentPart? {exponent : Option (Bool × List Char)}
    (h : exponentPart? cs = some (exponent, rest)) : rest <:+ cs := by
  unfold exponentPart? at h
  split at h
  · split at h
    · obtain ⟨⟨ds, r⟩, hdigits, h⟩ := Option.map_eq_some_iff.mp h
      obtain ⟨-, rfl⟩ := Prod.mk.inj h
      exact (suffix_of_digitsPart? hdigits).trans
        ((exponentSign_suffix _).trans (List.suffix_cons _ _))
    · obtain ⟨-, rfl⟩ := Prod.mk.inj (Option.some.inj h)
      exact List.suffix_rfl
  · obtain ⟨-, rfl⟩ := Prod.mk.inj (Option.some.inj h)
    exact List.suffix_rfl

/-- What is left after a numeral is the end of the text. -/
theorem suffix_of_numeral? {negative : Bool} {n : Numeral}
    (h : numeral? negative cs = some (n, rest)) : rest <:+ cs := by
  rw [numeral?_eq] at h
  obtain ⟨-, h⟩ := Option.ite_none_right_eq_some.mp h
  obtain ⟨⟨fraction, r⟩, hfraction, h⟩ := Option.bind_eq_some_iff.mp h
  obtain ⟨⟨exponent, r'⟩, hexponent, h⟩ := Option.map_eq_some_iff.mp h
  obtain ⟨-, rfl⟩ := Prod.mk.inj h
  exact (suffix_of_exponentPart? hexponent).trans
    ((suffix_of_fractionPart? hfraction).trans (List.dropWhile_suffix Char.isDigit))

end Suffix

end UsageReports.Json
