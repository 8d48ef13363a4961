import UsageReports.Json.Reader
import UsageReports.Json.Writer

/-!
# Texts in quotes

A text is read back from its written form, whatever stands after the closing quote: each character is
written as a unit that stands for it.
-/

namespace UsageReports.Json

/-- Whether a unit is what a character is written as, and stands for nothing else. -/
structure Writes (u : TextUnit) (c : Char) : Prop where
  read : ∀ rest, textUnits (escapeChar c ++ rest) = (textUnits rest).map fun p ↦ (u :: p.1, p.2)
  stands : ∀ us, chars? (u :: us) = (chars? us).map (c :: ·)

theorem hex4?_control : ∀ n < 32,
    hex4? '0' '0' (Char.ofNat (48 + n / 16)) (hexDigit (n % 16)).toLower = some n := by
  decide

/-- A control character is written by its number. -/
theorem writes_code {c : Char} (hlow : c.toNat < 0x20)
    (h : escapeChar c =
      ['\\', 'u', '0', '0', Char.ofNat (48 + c.toNat / 16), (hexDigit (c.toNat % 16)).toLower]) :
    Writes (.code c.toNat) c := by
  constructor
  · intro rest
    rw [h]
    simp only [List.cons_append, List.nil_append, textUnits, hex4?_control _ hlow]
    cases textUnits rest <;> rfl
  · intro us
    rw [chars?.eq_def]
    simp only
    rw [if_neg (by omega), if_neg (by omega), Char.ofNat_toNat]

/-- A character that needs no escape stands for itself. -/
theorem writes_self {c : Char} (h : escapeChar c = [c]) (hlow : ¬ c.toNat < 0x20) (hquote : c ≠ '"')
    (hback : c ≠ '\\') : Writes (.char c) c := by
  constructor
  · intro rest
    rw [h, List.singleton_append, textUnits.eq_def]
    split
    · next heq => simp at heq
    · next heq => exact absurd (List.cons.inj heq).1 hquote
    · next heq => exact absurd (List.cons.inj heq).1 hback
    · next heq => exact absurd (List.cons.inj heq).1 hback
    · next heq =>
      obtain ⟨rfl, rfl⟩ := List.cons.inj heq
      rw [if_neg (by simp [hlow, hback])]
      cases textUnits rest <;> rfl
  · intro us
    rw [chars?]

theorem writes_escaped {c e : Char} (h : escapeChar c = ['\\', e]) (he : e ≠ 'u')
    (hstands : escaped? e = some c) : Writes (.char c) c := by
  constructor
  · intro rest
    rw [h, List.cons_append, List.singleton_append, textUnits.eq_def]
    split
    · next heq => simp at heq
    · next heq => simp at heq
    · next heq => exact absurd (List.cons.inj (List.cons.inj heq).2).1 he
    · next heq =>
      obtain ⟨-, heq⟩ := List.cons.inj heq
      obtain ⟨rfl, rfl⟩ := List.cons.inj heq
      rw [hstands]
      cases textUnits rest <;> rfl
    · next hno heq =>
      obtain ⟨rfl, rfl⟩ := List.cons.inj heq
      exact (hno e rest rfl rfl).elim
  · intro us
    rw [chars?]

/-- Each character is written as some unit. -/
theorem exists_writes (c : Char) : ∃ u, Writes u c := by
  have h : escapeChar c = escapeChar c := rfl
  conv at h =>
    rhs
    unfold escapeChar
  split at h
  · exact ⟨_, writes_escaped h (by decide) rfl⟩
  · exact ⟨_, writes_escaped h (by decide) rfl⟩
  · exact ⟨_, writes_escaped h (by decide) rfl⟩
  · exact ⟨_, writes_escaped h (by decide) rfl⟩
  · exact ⟨_, writes_escaped h (by decide) rfl⟩
  · exact ⟨_, writes_escaped h (by decide) rfl⟩
  · exact ⟨_, writes_escaped h (by decide) rfl⟩
  · next hquote hback _ _ _ _ _ =>
    split at h
    · next hlow => exact ⟨_, writes_code hlow h⟩
    · next hlow => exact ⟨_, writes_self h hlow hquote hback⟩

/-- The characters of a text in quotes are read up to the closing quote. -/
theorem exists_textUnits (cs : List Char) : ∃ us, chars? us = some cs ∧
    ∀ rest, textUnits (cs.flatMap escapeChar ++ '"' :: rest) = some (us, rest) := by
  induction cs with
  | nil => exact ⟨[], rfl, fun rest ↦ by rw [List.flatMap_nil, List.nil_append, textUnits]⟩
  | cons c cs ih =>
    obtain ⟨us, hchars, hread⟩ := ih
    obtain ⟨u, hu⟩ := exists_writes c
    refine ⟨u :: us, ?_, fun rest ↦ ?_⟩
    · rw [hu.stands, hchars]
      rfl
    · rw [List.flatMap_cons, List.append_assoc, hu.read, hread]
      rfl

end UsageReports.Json
