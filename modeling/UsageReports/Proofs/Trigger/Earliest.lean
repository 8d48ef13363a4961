import UsageReports.Proofs.Trigger.Resumption

/-!
# The earliest occurrence

What a rule finds from an instant on is an occurrence, and none comes before it. The occurrences of
the rule of a trigger are told by the start of the trigger: whole minutes at its hour and minute, on
its weekday, or on its day where every month has that day, and else on the last day of every month.
-/

namespace UsageReports

namespace TimeOfDay

/-- The hour of a time of day. -/
def hour (time : TimeOfDay) : Nat := time.second / 3600

/-- The minute within the hour. -/
def minute (time : TimeOfDay) : Nat := time.second / 60 % 60

/-- A time is that of the minute of another when it has its hour and minute, and no seconds. -/
theorem eq_minute_iff (time other : TimeOfDay) :
    time = ⟨other.second / 60 * 60, 0⟩ ↔
      time.hour = other.hour ∧ time.minute = other.minute ∧
        time.second % 60 = 0 ∧ time.nanos = 0 := by
  obtain ⟨second, nanos⟩ := time
  simp only [hour, minute, mk.injEq]
  omega

end TimeOfDay

namespace Month

theorem lastCommonDay_le_length (m : Month) : Trigger.lastCommonDay ≤ m.length := by
  unfold length Trigger.lastCommonDay
  split
  · split <;> omega
  · split <;> omega

end Month

namespace Instant

/-- What lies between two instants that the calendar reaches is reached too. -/
theorem InCalendar.of_le_of_le {t o x : Instant} (ht : t.InCalendar) (hx : x.InCalendar)
    (hto : t ≤ o) (hox : o ≤ x) : o.InCalendar := by
  have hlow := Month.le_def.mp (month_le hto)
  have hhigh := Month.le_def.mp (month_le hox)
  have hfirst := ht.1
  have hlast := hx.2
  exact ⟨by omega, by omega⟩

end Instant

namespace Trigger

/-- Whether a date is one of the days that a trigger keeps to. -/
def KeepsTo (t : Trigger) (d : Date) : Prop :=
  match t.interval with
  | .daily => True
  | .weekly => Weekday.ofDayNumber d.dayNumber = Weekday.ofDayNumber t.start.dayNumber
  | .monthly =>
    if t.start.date.day ≤ 28 then d.day = t.start.date.day else d.day = d.month.length

instance (t : Trigger) (d : Date) : Decidable (t.KeepsTo d) :=
  match t with
  | ⟨_, .daily, _, _⟩ => inferInstanceAs (Decidable True)
  | ⟨_, .weekly, _, _⟩ => inferInstanceAs (Decidable (_ = _))
  | ⟨_, .monthly, _, _⟩ => inferInstanceAs (Decidable (if _ ≤ _ then _ = _ else _ = _))

variable (t : Trigger)

theorem fallsOn_rule_iff (d : Date) : t.rule.FallsOn d ↔ t.KeepsTo d := by
  unfold rule KeepsTo
  cases t.interval with
  | daily => exact Iff.rfl
  | weekly => exact Iff.rfl
  | monthly =>
    simp only
    split
    · next hlate =>
      rw [if_neg (show ¬ t.start.date.day ≤ 28 from Nat.not_le.mpr hlate)]
      rfl
    · next hcommon =>
      have hcommon : t.start.date.day ≤ 28 := Nat.not_lt.mp hcommon
      have hlength := Nat.le_trans hcommon d.month.lastCommonDay_le_length
      rw [if_pos hcommon, Rule.FallsOn, Nat.min_eq_left hlength]

theorem occurs_rule_iff (x : Instant) :
    t.rule.Occurs x ↔ t.KeepsTo x.date ∧
      (x.time.hour = t.start.time.hour ∧ x.time.minute = t.start.time.minute ∧
        x.time.second % 60 = 0 ∧ x.time.nanos = 0) := by
  rw [Rule.Occurs, fallsOn_rule_iff, time_rule, TimeOfDay.eq_minute_iff]

end Trigger

namespace Rule

/-- What a rule finds from an instant on is an occurrence of the rule, is not before the instant,
and no occurrence lies between the two, if the calendar reaches any occurrence from there on. The
rule of a trigger is such a rule: it occurs on the days of the trigger, at the hour and minute of
its start. -/
theorem firstAtOrAfter_earliest :
    (∀ (r : Rule) (t : Instant), r.IsProper → t.InCalendar →
      (∃ x, r.Occurs x ∧ t ≤ x ∧ x.InCalendar) →
        r.Occurs (r.firstAtOrAfter t) ∧ t ≤ r.firstAtOrAfter t ∧ (r.firstAtOrAfter t).InCalendar ∧
          ∀ x, r.Occurs x → t ≤ x → r.firstAtOrAfter t ≤ x) ∧
    ∀ trigger : Trigger, trigger.rule.IsProper ∧
      ∀ x : Instant, trigger.rule.Occurs x ↔ trigger.KeepsTo x.date ∧
        (x.time.hour = trigger.start.time.hour ∧ x.time.minute = trigger.start.time.minute ∧
          x.time.second % 60 = 0 ∧ x.time.nanos = 0) := by
  refine ⟨fun r t hproper ht hocc ↦ ?_, fun trigger ↦
    ⟨trigger.isProper_rule, trigger.occurs_rule_iff⟩⟩
  obtain ⟨⟨hoccurs, hle⟩, hleast⟩ := isLeast_firstAtOrAfter hproper ht.1 hocc
  obtain ⟨x, hx, htx, hin⟩ := hocc
  exact ⟨hoccurs, hle, ht.of_le_of_le hin hle (hleast ⟨hx, htx⟩), fun y hy hty ↦ hleast ⟨hy, hty⟩⟩

/-- After the last of January the thirty-first is next the last of February, and so it is for a
trigger that starts on the thirtieth. -/
theorem firstAtOrAfter_earliest_february :
    let january : Month := .january 2021
    let morning (d : Date) : Instant := .onDay d.dayNumber ⟨28800, 500⟩
    let r : Rule := .monthly 31 ⟨28800, 500⟩
    let found := r.firstAtOrAfter (morning january.closing).next
    let trigger : Trigger :=
      { tenant := "a", interval := .monthly, start := morning ⟨january, 30, by decide, by decide⟩ }
    found = morning january.succ.closing ∧
      (∀ x, r.Occurs x → (morning january.closing).next ≤ x → found ≤ x) ∧
      trigger.rule.Occurs (.onDay january.succ.closing.dayNumber ⟨28800, 0⟩) := by
  intro january morning r found trigger
  have hfound : found = morning january.succ.closing := by decide +kernel
  obtain ⟨-, -, -, hleast⟩ := firstAtOrAfter_earliest.1 r (morning january.closing).next
    ⟨⟨by decide, by decide⟩, by decide⟩ (by decide +kernel) ⟨found, by decide +kernel⟩
  exact ⟨hfound, hleast, ((firstAtOrAfter_earliest.2 trigger).2 _).mpr (by decide +kernel)⟩

end Rule
end UsageReports
