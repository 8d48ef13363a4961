import UsageReports.Proofs.Harvest.ExactlyOnce
import UsageReports.Proofs.Harvest.Timeline
import UsageReports.Proofs.Plan.Stored
import UsageReports.Proofs.Store.Writing

/-!
# Calls for a provider

A call plans what is missing, fetches it in some course, and merges what was emitted into the store.
Whatever the order of the replies, the records that are merged are those of the missing cells, each
once; the provider runs of an outfit are such calls.
-/

namespace UsageReports

namespace Outfit

variable {σ : Type}

/-- The plan for a provider from the records of a store in memory. -/
def planFrom (o : Outfit σ) (p : Provider) (s : RecordStore) : Except PlanError (List Range) :=
  p.plan o.settings.packing (s.memory.existingFor p) o.lastCompleted

/-- What a run over a plan comes to once its records are written. -/
def concluded (o : Outfit σ) (p : Provider) (plan : List Range) (r : Run) (s : RecordStore) :
    ProviderRun × RecordStore :=
  let (writes, s) := s.persistAll o.writeRetries r.emitted
  ({ provider := p.id, planned := plan.length, tally := r.tally, limit := r.limit.current, writes },
    s)

/-- A call for a provider, with replies in any order. -/
inductive Call (o : Outfit σ) (may : FetchTask → Reply → Prop) (p : Provider) (s : RecordStore) :
    ProviderRun → RecordStore → Prop
  | idle {run : ProviderRun} (hopening : o.opening s p = .ok (.nothing run)) : Call o may p s run s
  | fetched {plan : List Range} {arrivals : List Run.Arrival} {r : Run}
      (hopening : o.opening s p = .ok (.fetch plan))
      (hmay : (Run.start o.settings.run p.id plan).Follows may arrivals)
      (hrun : r = (Run.start o.settings.run p.id plan).after arrivals) (hend : r.inFlight = []) :
      Call o may p s (o.concluded p plan r s).1 (o.concluded p plan r s).2

variable {o : Outfit σ} {p : Provider} {s after : RecordStore} {run : ProviderRun}

/-- More replies may be allowed. -/
theorem Call.mono {may may' : FetchTask → Reply → Prop} (hcall : o.Call may p s run after)
    (hmay : ∀ task reply, may task reply → may' task reply) : o.Call may' p s run after := by
  cases hcall with
  | idle hopening => exact .idle hopening
  | fetched hopening hfollows hrun hend => exact .fetched hopening (hfollows.mono hmay) hrun hend

/-- A provider run is a call in which the replies are those of the source. -/
theorem call_of_runProvider {source source' : σ}
    (h : o.runProvider p s source = (.ok run, after, source')) :
    o.Call (Timeline.MayReply (o.fetch p)) p s run after := by
  unfold runProvider at h
  split at h
  · cases h
  · next hopening =>
    cases h
    exact .idle hopening
  · next plan hopening =>
    obtain ⟨arrivals, hmay, hrun, hend⟩ :=
      o.course_of_finish p plan source (o.launch p plan source).timeline.source
    rw [← hrun] at hend
    cases h
    exact .fetched hopening hmay hrun hend

/-- A provider run ends well if it begins well. -/
theorem runProvider_returns {opening : Opening} (h : o.opening s p = .ok opening) (source : σ) :
    ∃ run after source', o.runProvider p s source = (.ok run, after, source') := by
  unfold runProvider
  rw [h]
  cases opening with
  | nothing run => exact ⟨_, _, _, rfl⟩
  | fetch plan => exact ⟨_, _, _, rfl⟩

variable {faults : List (String × StoreError)} {records : Records}

/-- How a call begins is decided by the plan from the stored records. -/
theorem opening_eq (h : s.Holds faults records) (hread : faults.lookup p.id = none) :
    o.opening s p =
      match p.plan o.settings.packing (records.existingFor p) o.lastCompleted with
      | .error _ => .ok (.nothing { provider := p.id, skipped := true })
      | .ok [] => .ok (.nothing { provider := p.id })
      | .ok plan =>
        match o.create p with
        | .error e => .error (.source e)
        | .ok () => .ok (.fetch plan) := by
  rw [opening, RecordStore.existingOf_eq h hread]
  rfl

/-- What a call is to fetch is its plan. -/
theorem plan_of_opening_fetch {plan : List Range} (h : s.Holds faults records)
    (hread : faults.lookup p.id = none) (hopening : o.opening s p = .ok (.fetch plan)) :
    p.plan o.settings.packing (records.existingFor p) o.lastCompleted = .ok plan := by
  rw [opening_eq h hread] at hopening
  split at hopening
  · cases hopening
  · cases hopening
  · next hplan =>
    split at hopening
    · cases hopening
    · cases hopening
      exact hplan

/-- An active provider with nothing to fetch has the empty plan. -/
theorem plan_of_opening_nothing (hactive : p.isActive = true) (h : s.Holds faults records)
    (hread : faults.lookup p.id = none) (hopening : o.opening s p = .ok (.nothing run)) :
    p.plan o.settings.packing (records.existingFor p) o.lastCompleted = .ok [] := by
  obtain ⟨plan, hplan⟩ : ∃ plan, p.plan o.settings.packing (records.existingFor p) o.lastCompleted =
    .ok plan := Provider.exists_plan hactive
  rw [opening_eq h hread, hplan] at hopening
  cases plan with
  | nil => exact hplan
  | cons range plan =>
    simp only at hopening
    split at hopening <;> cases hopening

/-- Some records that were emitted for missing cells, each in the name of the provider. -/
structure Merges (o : Outfit σ) (may : FetchTask → Reply → Prop) (p : Provider)
    (records : Records) (merged : List Record) : Prop where
  distinct : (merged.map Record.key).Nodup
  own : ∀ r ∈ merged, r.provider = p.id
  missing : ∀ r ∈ merged, p.Misses (records.existingFor p) o.lastCompleted r.reportType r.month
  emitted : ∀ r ∈ merged, ∃ task reply, may task reply ∧
    r ∈ task.emits p.id (task.verdict o.settings.run.rateLimitAttempts reply.result)

variable {may : FetchTask → Reply → Prop} {merged emitted : List Record}

theorem merges_nil : o.Merges may p records [] where
  distinct := List.nodup_nil
  own _ hr := absurd hr List.not_mem_nil
  missing _ hr := absurd hr List.not_mem_nil
  emitted _ hr := absurd hr List.not_mem_nil

theorem Merges.sublist (h : o.Merges may p records emitted) (hsub : merged.Sublist emitted) :
    o.Merges may p records merged where
  distinct := h.distinct.sublist (hsub.map Record.key)
  own r hr := h.own r (hsub.mem hr)
  missing r hr := h.missing r (hsub.mem hr)
  emitted r hr := h.emitted r (hsub.mem hr)

section Planned

variable {plan : List Range} {arrivals : List Run.Arrival}
  (hplan : p.plan o.settings.packing (records.existingFor p) o.lastCompleted = .ok plan)
include hplan

/-- What a run over the plan has emitted may be merged at any time. -/
theorem merges_emitted (hmay : (Run.start o.settings.run p.id plan).Follows may arrivals) :
    o.Merges may p records ((Run.start o.settings.run p.id plan).after arrivals).emitted := by
  have hcells :
      (((Run.start o.settings.run p.id plan).after arrivals).emitted.map Record.cell).Subperm
        (cellsOf plan) := Run.cells_emitted_subperm
  refine ⟨?_, fun r hr ↦ Run.provider_of_mem_emitted hr, ?_,
    fun r hr ↦ Run.exists_emits_of_mem_emitted hmay hr⟩
  · obtain ⟨cells, hperm, hsub⟩ := hcells
    have hnodup := hperm.nodup_iff.mp ((Provider.nodup_cellsOf_plan hplan).sublist hsub)
    rw [List.Nodup, List.pairwise_map] at hnodup ⊢
    refine hnodup.imp ?_
    intro a b hab hkey
    exact hab (congrArg (fun k : Record.Key ↦ (k.reportType, k.month)) hkey)
  · intro r hr
    have hcell := hcells.subset (List.mem_map_of_mem hr)
    exact (Provider.mem_cellsOf_plan hplan _ _).mp hcell

/-- An ended run has emitted a record for each missing cell. -/
theorem exists_emitted_of_misses
    (hend : ((Run.start o.settings.run p.id plan).after arrivals).inFlight = []) {t : String}
    {m : Month} (hm : p.Misses (records.existingFor p) o.lastCompleted t m) :
    ∃ r ∈ ((Run.start o.settings.run p.id plan).after arrivals).emitted, r.key = p.keyOf t m := by
  have hcell := (Provider.mem_cellsOf_plan hplan t m).mpr hm
  obtain ⟨r, hr, hrcell⟩ := List.mem_map.mp ((Run.cells_of_ended hend).mem_iff.mpr hcell)
  have hprovider := Run.provider_of_mem_emitted hr
  obtain ⟨ht, hm⟩ := Prod.mk.inj hrcell
  exact ⟨r, hr, by rw [Record.key, hprovider, ht, hm]; rfl⟩

end Planned

/-- What a call does to a store in memory: it merges records of missing cells, and where no write
fails one for each of them. -/
theorem Call.merges (hcall : o.Call may p s run after) (h : s.Holds faults records)
    (hread : faults.lookup p.id = none) :
    ∃ merged, after.Holds faults (records.upsertAll merged) ∧ o.Merges may p records merged ∧
      (p.isActive = true → run.writes.failures = 0 → ∀ t m,
        p.Misses (records.existingFor p) o.lastCompleted t m →
          ∃ r ∈ merged, r.key = p.keyOf t m) := by
  cases hcall with
  | idle hopening =>
    refine ⟨[], h, merges_nil, ?_⟩
    intro hactive _ t m hm
    have hplan := plan_of_opening_nothing hactive h hread hopening
    exact absurd ((Provider.mem_cellsOf_plan hplan t m).mpr hm) List.not_mem_nil
  | fetched hopening hmay hrun hend =>
    subst hrun
    have hplan := plan_of_opening_fetch h hread hopening
    have hemitted := merges_emitted hplan hmay
    obtain ⟨merged, hsub, hall, hafter⟩ := RecordStore.holds_persistAll h o.writeRetries _
    refine ⟨merged, hafter, hemitted.sublist hsub, ?_⟩
    intro _ hnone t m hm
    rw [hall hnone]
    exact exists_emitted_of_misses hplan hend hm

end Outfit
end UsageReports
