import Mathlib.Data.List.Induction
import UsageReports.Proofs.Store.Listing

/-!
# What is stored after findings

Each attempt to fetch a month ends with a finding: its payload, or why there is none. What is stored
of a month after any findings about any months has a closed form, in which only the findings about
that month count: the last payload if there ever was one, else the last reason, with the number of
attempts. So the order of findings about different months makes no difference to a store, and no
failure takes away a payload.
-/

namespace UsageReports

/-- What an attempt to fetch a month ends with. -/
inductive Finding where
  | found (payload : Json)
  | failed (reason : String)

namespace Finding

/-- The payload that was found. -/
def payload? : Finding → Option Json
  | found payload => some payload
  | failed _ => none

/-- Why nothing was found. -/
def reason? : Finding → Option String
  | found _ => none
  | failed reason => some reason

/-- The record of a finding about the month of a key. -/
def record (k : Record.Key) : Finding → Record
  | found payload => .success k.provider k.reportType k.month payload
  | failed reason => .placeholder k.provider k.reportType k.month reason

/-- The last payload among findings. -/
def lastPayload? (findings : List Finding) : Option Json :=
  (findings.filterMap payload?).getLast?

/-- The last reason among findings. -/
def lastReason? (findings : List Finding) : Option String :=
  (findings.filterMap reason?).getLast?

/-- What is known of a month after findings about it: the last payload; if there never was one the
last reason, with the number of findings as far as it fits 32 bits. -/
def known (k : Record.Key) (findings : List Finding) : Option Record :=
  match lastPayload? findings, lastReason? findings with
  | some payload, _ => some (.success k.provider k.reportType k.month payload)
  | none, some reason =>
    some { Record.placeholder k.provider k.reportType k.month reason with
      attempts := min findings.length maxUInt32 }
  | none, none => none

@[simp] theorem key_record (k : Record.Key) (f : Finding) : (f.record k).key = k := by
  cases f <;> rfl

theorem lastPayload?_concat_found (findings : List Finding) (payload : Json) :
    lastPayload? (findings ++ [found payload]) = some payload := by
  rw [lastPayload?, List.filterMap_append]
  exact List.getLast?_concat

theorem lastPayload?_concat_failed (findings : List Finding) (reason : String) :
    lastPayload? (findings ++ [failed reason]) = lastPayload? findings := by
  rw [lastPayload?, List.filterMap_append]
  exact congrArg List.getLast? (List.append_nil _)

theorem lastReason?_concat_failed (findings : List Finding) (reason : String) :
    lastReason? (findings ++ [failed reason]) = some reason := by
  rw [lastReason?, List.filterMap_append]
  exact List.getLast?_concat

/-- Of findings without a payload the last one has the last reason. -/
theorem eq_nil_of_last {findings : List Finding} (hp : lastPayload? findings = none)
    (hr : lastReason? findings = none) : findings = [] := by
  rw [lastPayload?, List.getLast?_eq_none_iff, List.filterMap_eq_nil_iff] at hp
  rw [lastReason?, List.getLast?_eq_none_iff, List.filterMap_eq_nil_iff] at hr
  apply List.eq_nil_iff_forall_not_mem.mpr
  intro f hf
  cases f with
  | found payload => exact Option.some_ne_none _ (hp _ hf)
  | failed reason => exact Option.some_ne_none _ (hr _ hf)

/-- Something is known as soon as there is a finding. -/
theorem known_eq_none_iff (k : Record.Key) (findings : List Finding) :
    known k findings = none ↔ findings = [] := by
  constructor
  · intro h
    unfold known at h
    split at h
    · contradiction
    · contradiction
    · next hp hr => exact eq_nil_of_last hp hr
  · rintro rfl
    rfl

/-- What is known to be satisfied stays so while attempts fail. -/
theorem known_append_of_failed {k : Record.Key} {findings later : List Finding} {r : Record}
    (hr : known k findings = some r) (hsatisfied : r.isSatisfied = true)
    (hfailed : ∀ f ∈ later, f.payload? = none) : known k (findings ++ later) = some r := by
  have hlast : lastPayload? (findings ++ later) = lastPayload? findings := by
    rw [lastPayload?, List.filterMap_append, List.filterMap_eq_nil_iff.mpr hfailed,
      List.append_nil, lastPayload?]
  cases hp : lastPayload? findings with
  | some payload =>
    rw [known, hp] at hr
    rw [known, hlast, hp, hr]
  | none =>
    rw [known, hp] at hr
    split at hr
    · contradiction
    · -- A record without payload is not satisfied.
      rw [← Option.some.inj hr] at hsatisfied
      contradiction
    · contradiction

/-- One finding more is merged onto what was known. -/
theorem storedOver_known (k : Record.Key) (findings : List Finding) (f : Finding) :
    (f.record k).storedOver (known k findings) = known k (findings ++ [f]) := by
  cases f with
  | found payload =>
    have hknown : known k (findings ++ [found payload]) = some ((found payload).record k) := by
      rw [known, lastPayload?_concat_found]
      rfl
    rw [hknown]
    cases known k findings with
    | none => rfl
    | some old => rfl
  | failed reason =>
    cases hp : lastPayload? findings with
    | some payload =>
      have hbefore : known k findings =
          some (.success k.provider k.reportType k.month payload) := by
        rw [known, hp]
      have hafter : known k (findings ++ [failed reason]) =
          some (.success k.provider k.reportType k.month payload) := by
        rw [known, lastPayload?_concat_failed, hp]
      rw [hbefore, hafter]
      rfl
    | none =>
      have hafter : known k (findings ++ [failed reason]) =
          some { (failed reason).record k with
            attempts := min (findings.length + 1) maxUInt32 } := by
        rw [known, lastPayload?_concat_failed, hp, lastReason?_concat_failed, List.length_append]
        rfl
      rw [hafter]
      cases hr : lastReason? findings with
      | none =>
        rw [eq_nil_of_last hp hr]
        rfl
      | some old =>
        have hbefore : known k findings =
            some { Record.placeholder k.provider k.reportType k.month old with
              attempts := min findings.length maxUInt32 } := by
          rw [known, hp, hr]
        have hnext : Record.nextAttempt (min findings.length maxUInt32) =
            min (findings.length + 1) maxUInt32 := by
          unfold Record.nextAttempt
          omega
        rw [hbefore, ← hnext]
        rfl

end Finding

/-- A finding about the month of a key. -/
structure Observation where
  key : Record.Key
  finding : Finding

namespace Observation

/-- The record of an observation. -/
def record (o : Observation) : Record := o.finding.record o.key

/-- The findings about the month of a key. -/
def about (k : Record.Key) (observations : List Observation) : List Finding :=
  (observations.filter (·.key = k)).map finding

@[simp] theorem key_record (o : Observation) : o.record.key = o.key := Finding.key_record _ _

theorem about_append (k : Record.Key) (earlier later : List Observation) :
    about k (earlier ++ later) = about k earlier ++ about k later := by
  rw [about, List.filter_append, List.map_append]
  rfl

theorem about_eq_nil_iff (k : Record.Key) (observations : List Observation) :
    about k observations = [] ↔ k ∉ observations.map key := by
  rw [about, List.map_eq_nil_iff, List.filter_eq_nil_iff]
  simp

end Observation

namespace Records

open Finding (known)
open Observation (about)

/-- What is stored under a key after observations is what is known from those about its month. -/
theorem get?_upsertAll_observations (observations : List Observation) (k : Record.Key) :
    (empty.upsertAll (observations.map Observation.record)).get? k =
      known k (about k observations) := by
  have hown : (observations.map Observation.record).filter (·.key = k) =
      (about k observations).map (Finding.record k) := by
    have hkey : ((fun r : Record ↦ decide (r.key = k)) ∘ Observation.record) =
        fun o ↦ decide (o.key = k) := by
      funext o
      rw [Function.comp, Observation.key_record]
    rw [List.filter_map, hkey, about, List.map_map]
    apply List.map_congr_left
    intro o ho
    have hk : o.key = k := by simpa using (List.mem_filter.mp ho).2
    rw [Observation.record, hk]
    rfl
  rw [get?_upsertAll, hown, List.foldl_map]
  generalize about k observations = findings
  -- From the back: the last finding is merged onto what the earlier ones leave.
  induction findings using List.reverseRecOn with
  | nil => rfl
  | append_singleton findings f ih =>
    rw [List.foldl_concat, ih]
    exact Finding.storedOver_known k findings f

/-- Exactly the keys that were observed have a record. -/
theorem mem_keys_upsertAll_observations (observations : List Observation) (k : Record.Key) :
    k ∈ (empty.upsertAll (observations.map Observation.record)).entries.map Record.key ↔
      k ∈ observations.map Observation.key := by
  rw [mem_keys_iff, get?_upsertAll_observations, ne_eq, Finding.known_eq_none_iff,
    Observation.about_eq_nil_iff, not_not]

/-- After any observations a store has under each key what is known from those about its month, and
one record for each key that was observed. Observations that say the same about each month leave the
same records, listed alike. A satisfied month stays as it is whatever fails later. -/
theorem stored_is_known (observations : List Observation) :
    let s := empty.upsertAll (observations.map Observation.record)
    (∀ k, s.get? k = known k (about k observations)) ∧
      ((s.entries.map Record.key).Nodup ∧
        ∀ k, k ∈ s.entries.map Record.key ↔ k ∈ observations.map Observation.key) ∧
      (∀ others, (∀ k, about k others = about k observations) →
        let s' := empty.upsertAll (others.map Observation.record)
        s'.entries.Perm s.entries ∧ (∀ p t, s'.existing p t = s.existing p t) ∧
          s'.all = s.all ∧ s'.count = s.count) ∧
      ∀ k r later, s.get? k = some r → r.isSatisfied = true →
        (∀ f ∈ about k later, f.payload? = none) →
          (s.upsertAll (later.map Observation.record)).get? k = some r := by
  intro s
  have hdistinct (os : List Observation) :
      (empty.upsertAll (os.map Observation.record)).Distinct :=
    distinct_upsertAll distinct_empty _
  refine ⟨get?_upsertAll_observations observations, ⟨hdistinct observations,
    mem_keys_upsertAll_observations observations⟩, ?_, ?_⟩
  · intro others hsame s'
    have hperm : s'.entries.Perm s.entries := by
      apply perm_of_get?_eq (hdistinct others) (hdistinct observations)
      intro k
      rw [get?_upsertAll_observations, get?_upsertAll_observations, hsame]
    exact ⟨hperm, existing_eq_of_perm (hdistinct others) hperm,
      all_eq_of_perm (hdistinct others) hperm, hperm.length_eq⟩
  · intro k r later hr hsatisfied hfailed
    have hboth : s.upsertAll (later.map Observation.record) =
        empty.upsertAll ((observations ++ later).map Observation.record) := by
      rw [List.map_append, upsertAll, upsertAll, List.foldl_append]
      rfl
    rw [get?_upsertAll_observations] at hr
    rw [hboth, get?_upsertAll_observations, Observation.about_append,
      Finding.known_append_of_failed hr hsatisfied hfailed]

end Records
end UsageReports
