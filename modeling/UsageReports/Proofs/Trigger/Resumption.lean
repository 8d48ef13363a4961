import UsageReports.Proofs.Trigger.Occurrence

/-!
# Resuming after missed firings

A trigger fires next at the first occurrence of its rule from its start on, or after its last
firing, and at once where that has passed. However many occurrences have passed, they are made good
by this one firing: once it is noted, the next one is the first occurrence after it.
-/

namespace UsageReports

namespace Instant

theorem le_antisymm {a b : Instant} (hab : a ≤ b) (hba : b ≤ a) : a = b := by
  have hrank : a.rank = b.rank := Int.le_antisymm hab hba
  obtain ⟨second, nanos, hlt⟩ := a
  obtain ⟨second', nanos', hlt'⟩ := b
  simp only [rank] at hrank
  simp only [mk.injEq]
  omega

theorem latest_of_le {a b : Instant} (h : b ≤ a) : a.latest b = a := by
  unfold latest
  split
  · next hab => exact le_antisymm h hab
  · rfl

theorem latest_of_lt {a b : Instant} (h : a < b) : a.latest b = b :=
  if_pos (Int.le_of_lt h)

/-- Between an instant and the next there is no whole second. -/
theorem next_le_iff {t x : Instant} (h : x.nanos = 0) : t.next ≤ x ↔ t < x := by
  refine ⟨fun hle ↦ Int.lt_of_lt_of_le t.lt_next hle, fun hlt ↦ ?_⟩
  have hnanos := t.nanos_lt
  change t.rank < x.rank at hlt
  change t.next.rank ≤ x.rank
  unfold next
  split
  · simp only [rank, h] at hlt ⊢
    push_cast
    omega
  · simp only [rank, h] at hlt ⊢
    push_cast
    omega

end Instant

namespace Trigger

variable {t : Trigger}

theorem time_rule (t : Trigger) : t.rule.time = ⟨t.start.time.second / 60 * 60, 0⟩ := by
  unfold rule
  cases t.interval with
  | daily => rfl
  | weekly => rfl
  | monthly =>
    simp only
    split <;> rfl

theorem isProper_rule (t : Trigger) : t.rule.IsProper := by
  have htime : TimeOfDay.InDay ⟨t.start.secondOfDay / 60 * 60, 0⟩ := by
    simp only [TimeOfDay.InDay, Instant.secondOfDay, secondsPerDay, nanosPerSecond]
    omega
  unfold rule
  cases t.interval with
  | daily => exact ⟨htime, trivial⟩
  | weekly => exact ⟨htime, trivial⟩
  | monthly =>
    simp only
    split
    · exact ⟨htime, trivial⟩
    · exact ⟨htime, t.start.date.one_le⟩

/-- A trigger's rule falls on whole minutes. -/
theorem nanos_of_occurs {x : Instant} (h : t.rule.Occurs x) : x.nanos = 0 :=
  congrArg TimeOfDay.nanos (h.2.trans t.time_rule)

theorem start_le_effectiveStart (t : Trigger) : t.start ≤ t.effectiveStart := by
  unfold effectiveStart
  split
  · split
    · next hle => exact Int.le_trans hle (Int.le_of_lt (Instant.lt_next _))
    · exact Int.le_refl _
  · exact Int.le_refl _

theorem effectiveStart_of_fired {f : Instant} (h : t.start ≤ f) :
    { t with lastFired := some f }.effectiveStart = f.next :=
  if_pos h

/-- What the rule of a trigger finds from an instant on that is not before the start. -/
theorem isLeast_occurrence {begin : Instant} (hstart : t.start.InCalendar)
    (hbegin : t.start ≤ begin) (hocc : ∃ x, t.rule.Occurs x ∧ begin ≤ x ∧ x.InCalendar) :
    IsLeast {x | t.rule.Occurs x ∧ begin ≤ x} (t.rule.firstAtOrAfter begin) := by
  refine Rule.isLeast_firstAtOrAfter t.isProper_rule ?_ hocc
  have hmonth := Month.le_def.mp (Instant.month_le hbegin)
  have hlow := hstart.1
  omega

/-- What the rule of a trigger finds after an instant that is not before the start. -/
theorem isLeast_occurrence_next {f : Instant} (hstart : t.start.InCalendar) (hf : t.start ≤ f)
    (hocc : ∃ x, t.rule.Occurs x ∧ f < x ∧ x.InCalendar) :
    IsLeast {x | t.rule.Occurs x ∧ f < x} (t.rule.firstAtOrAfter f.next) := by
  have hset : {x | t.rule.Occurs x ∧ f < x} = {x | t.rule.Occurs x ∧ f.next ≤ x} := by
    ext x
    exact and_congr_right fun hx ↦ (Instant.next_le_iff (nanos_of_occurs hx)).symm
  rw [hset]
  obtain ⟨x, hx, hlt, hin⟩ := hocc
  exact isLeast_occurrence hstart (Int.le_trans hf (Int.le_of_lt f.lt_next))
    ⟨x, hx, (Instant.next_le_iff (nanos_of_occurs hx)).mpr hlt, hin⟩

theorem effectiveStart_le_nextFire (hstart : t.start.InCalendar)
    (hocc : ∃ x, t.rule.Occurs x ∧ t.effectiveStart ≤ x ∧ x.InCalendar) (after : Instant) :
    t.effectiveStart ≤ t.nextFire after :=
  Int.le_trans (isLeast_occurrence hstart t.start_le_effectiveStart hocc).1.2
    (Instant.le_latest_left _ _)

/-- A trigger fires next at the first occurrence of its rule from its effective start on, or at once
where that has passed; never before its start, and always after its last firing. Once this firing
is noted, the trigger fires next at the first occurrence after it, seen at any time up to that
occurrence, however many occurrences had passed before. -/
theorem nextFire_catches_up_once (t : Trigger) (after : Instant) (hstart : t.start.InCalendar)
    (hocc : ∃ x, t.rule.Occurs x ∧ t.effectiveStart ≤ x ∧ x.InCalendar) :
    (∃ o, IsLeast {x | t.rule.Occurs x ∧ t.effectiveStart ≤ x} o ∧
      (after ≤ o → t.nextFire after = o) ∧ (o < after → t.nextFire after = after)) ∧
    (t.start ≤ t.nextFire after ∧ ∀ last ∈ t.lastFired, last < t.nextFire after) ∧
    ((∃ x, t.rule.Occurs x ∧ t.nextFire after < x ∧ x.InCalendar) →
      ∃ c, IsLeast {x | t.rule.Occurs x ∧ t.nextFire after < x} c ∧
        ∀ a, t.nextFire after ≤ a → a ≤ c →
          { t with lastFired := some (t.nextFire after) }.nextFire a = c) := by
  have hleast := isLeast_occurrence hstart t.start_le_effectiveStart hocc
  have hfire := effectiveStart_le_nextFire hstart hocc after
  have hstarted : t.start ≤ t.nextFire after := Int.le_trans t.start_le_effectiveStart hfire
  refine ⟨⟨_, hleast, Instant.latest_of_le, Instant.latest_of_lt⟩, ⟨hstarted, ?_⟩, fun hmore ↦ ?_⟩
  · intro last hlast
    exact Int.lt_of_lt_of_le (lastFired_lt_effectiveStart hlast) hfire
  · refine ⟨_, isLeast_occurrence_next hstart hstarted hmore, fun a _ hac ↦ ?_⟩
    rw [nextFire, effectiveStart_of_fired hstarted]
    exact Instant.latest_of_le hac

/-- Eight in the morning of the last day of a month of 2020. -/
private def monthEnd (months : Int) : Instant :=
  .onDay ((Month.january 2020).addMonths months).closing.dayNumber ⟨28800, 0⟩

/-- A monthly trigger that was last fired at the end of February. -/
private def sinceFebruary : Trigger :=
  { tenant := "a", interval := .monthly, start := (monthEnd 0).next
    lastFired := some (monthEnd 1) }

/-- At the beginning of June three occurrences have been missed. -/
theorem nextFire_catches_up_once_in_june :
    let june : Instant := .onDay ((Month.january 2020).addMonths 5).opening.dayNumber ⟨0, 0⟩
    sinceFebruary.nextFire june = june ∧
      ∃ c, IsLeast {x | sinceFebruary.rule.Occurs x ∧ june < x} c ∧
        ∀ a, june ≤ a → a ≤ c → { sinceFebruary with lastFired := some june }.nextFire a = c := by
  intro june
  have hjune : sinceFebruary.nextFire june = june := by decide +kernel
  obtain ⟨-, -, hmore⟩ := nextFire_catches_up_once sinceFebruary june (by decide +kernel)
    ⟨monthEnd 2, by decide +kernel⟩
  rw [hjune] at hmore
  exact ⟨hjune, hmore ⟨monthEnd 5, by decide +kernel⟩⟩

end Trigger
end UsageReports
