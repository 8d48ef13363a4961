import UsageReports.Proofs.Plan.Gap
import UsageReports.Proofs.Store.Lookup

/-!
# Plans from stored records

A cell is settled by the record that is stored under its key, and by no other. So a plan depends
only on what is stored under the keys of its provider's wanted cells.
-/

namespace UsageReports

/-- The key of a cell of a provider. -/
def Provider.keyOf (p : Provider) (t : String) (m : Month) : Record.Key := ⟨p.id, t, m⟩

theorem Provider.keyOf_inj {p : Provider} {t u : String} {m n : Month} :
    p.keyOf t m = p.keyOf u n ↔ t = u ∧ m = n := by
  rw [keyOf, keyOf, Record.Key.mk.injEq]
  exact and_iff_right rfl

/-- The records that a provider's plan is made from. -/
def Records.existingFor (s : Records) (p : Provider) : List Record :=
  p.reportTypes.flatMap (s.existing p.id)

/-- Whether what is stored under a key settles its cell. -/
def Provider.settledBy (p : Provider) (stored : Option Record) : Bool :=
  stored.any fun r ↦ r.isSatisfied || r.isExhausted p.maxFailedAttempts

/-- A satisfied cell is settled. -/
theorem Provider.settledBy_of_isSatisfied {p : Provider} {r : Record} (h : r.isSatisfied = true) :
    p.settledBy (some r) = true := by
  simp [settledBy, h]

namespace Records

variable {s : Records} {p : Provider} {packing : Packing} {lastCompleted : Month}

theorem mem_existingFor (s : Records) (p : Provider) (r : Record) :
    r ∈ s.existingFor p ↔ r ∈ s.entries ∧ r.provider = p.id ∧ r.reportType ∈ p.reportTypes := by
  rw [existingFor, List.mem_flatMap]
  constructor
  · rintro ⟨t, ht, hr⟩
    obtain ⟨hmem, hp, rfl⟩ := (s.mem_existing p.id t r).mp hr
    exact ⟨hmem, hp, ht⟩
  · rintro ⟨hr, hp, ht⟩
    exact ⟨_, ht, (s.mem_existing p.id _ r).mpr ⟨hr, hp, rfl⟩⟩

/-- A requested cell is settled by what is stored under its key. -/
theorem isSettled_existingFor (h : s.Distinct) {t : String} (ht : t ∈ p.reportTypes) (m : Month) :
    p.isSettled (s.existingFor p) t m = p.settledBy (s.get? (p.keyOf t m)) := by
  rw [Bool.eq_iff_iff, Provider.isSettled, List.any_eq_true, Provider.settledBy, Option.any_eq_true]
  constructor
  · rintro ⟨r, hr, hp⟩
    simp only [Bool.and_eq_true, decide_eq_true_eq] at hp
    obtain ⟨⟨⟨hid, rfl⟩, rfl⟩, hsettles⟩ := hp
    have hkey : r.key = p.keyOf r.reportType r.month := by rw [Record.key, hid]; rfl
    exact ⟨r, (get?_eq_some_iff h _ r).mpr ⟨((mem_existingFor s p r).mp hr).1, hkey⟩, hsettles⟩
  · rintro ⟨r, hr, hsettles⟩
    obtain ⟨hmem, hkey⟩ := (get?_eq_some_iff h _ r).mp hr
    obtain ⟨hid, rfl, rfl⟩ := Record.Key.mk.inj hkey
    refine ⟨r, (mem_existingFor s p r).mpr ⟨hmem, hid, ht⟩, ?_⟩
    simp only [hid, decide_true, Bool.true_and]
    exact hsettles

/-- A cell is missed when it is wanted and what is stored under its key does not settle it. -/
theorem misses_iff (h : s.Distinct) (t : String) (m : Month) :
    p.Misses (s.existingFor p) lastCompleted t m ↔
      t ∈ p.reportTypes ∧ m ∈ p.wantedMonths lastCompleted ∧
        p.settledBy (s.get? (p.keyOf t m)) = false := by
  constructor
  · intro hm
    rw [← isSettled_existingFor h hm.requested]
    exact ⟨hm.requested, hm.wanted, hm.unsettled⟩
  · rintro ⟨ht, hw, hs⟩
    rw [← isSettled_existingFor h ht] at hs
    exact ⟨ht, hw, hs⟩

/-- Stores that settle the same wanted cells lead to the same plan. -/
theorem plan_existingFor_congr {s' : Records} (h : s.Distinct) (h' : s'.Distinct)
    (hsame : ∀ t ∈ p.reportTypes, ∀ m ∈ p.wantedMonths lastCompleted,
      p.settledBy (s.get? (p.keyOf t m)) = p.settledBy (s'.get? (p.keyOf t m))) :
    p.plan packing (s.existingFor p) lastCompleted =
      p.plan packing (s'.existingFor p) lastCompleted := by
  apply Provider.plan_congr
  intro t ht m hm
  rw [isSettled_existingFor h ht, isSettled_existingFor h' ht]
  exact hsame t ht m hm

end Records
end UsageReports
