import UsageReports.Proofs.Job.Lifecycle

/-!
# What goes on without providers

Where no provider is begun and none comes to its end, a harvester keeps its records and its sources,
and each job fetches what it fetched before.
-/

namespace UsageReports

variable {σ : Type}

/-- What a job fetches in a stage. -/
def JobStage.active : JobStage σ → List (Fetching σ)
  | .running _ active _ => active
  | _ => []

namespace Harvester

/-- What a job fetches, if it is there. -/
def active (h : Harvester σ) (id : Nat) : List (Fetching σ) :=
  ((h.job? id).map fun j ↦ j.stage.active).getD []

/-- Whether one harvester has the records and sources of another, and its jobs fetch the same. -/
structure Idles (h h' : Harvester σ) : Prop where
  records : h'.records = h.records
  source : h'.source = h.source
  active : ∀ id, h'.active id = h.active id

variable {o : Outfit σ} {h h' : Harvester σ} {id : Nat} {j : Job σ}

theorem Idles.refl (h : Harvester σ) : h.Idles h := ⟨rfl, rfl, fun _ ↦ rfl⟩

theorem active_eq (hj : h.job? id = some j) : h.active id = j.stage.active := by
  rw [active, hj]
  rfl

/-- A job goes to a stage in which it fetches the same. -/
theorem idles_put {j' : Job σ} {stage : JobStage σ} (hjobs : h'.jobs = Keyed.put Job.id j' h.jobs)
    (hj : h.job? id = some j) (hid : j'.id = j.id) (hstage : j.stage = stage)
    (hactive : j'.stage.active = stage.active) (hrecords : h'.records = h.records)
    (hsource : h'.source = h.source) : h.Idles h' := by
  subst hstage
  obtain rfl := id_of_job? hj
  refine ⟨hrecords, hsource, ?_⟩
  intro id
  by_cases hsame : j'.id = id
  · have hj' : h'.job? id = some j' := by
      rw [job?, hjobs, ← hsame]
      exact Keyed.get?_put_self Job.id j' h.jobs
    rw [active_eq hj', hactive, ← hsame, hid, active_eq hj]
  · have hother : h'.job? id = h.job? id := by
      rw [job?, hjobs]
      exact Keyed.get?_put_of_ne Job.id hsame h.jobs
    rw [active, active, hother]

/-- A job that fetches nothing leaves. -/
theorem idles_release {stage : JobStage σ} (hj : h.job? id = some j) (hstage : j.stage = stage)
    (hnone : stage.active = []) (result : Except JobError Summary) :
    h.Idles (h.release j result) := by
  subst hstage
  obtain rfl := id_of_job? hj
  refine ⟨rfl, rfl, ?_⟩
  intro id
  by_cases hsame : id = j.id
  · subst hsame
    have hgone : (h.release j result).job? j.id = none := Keyed.get?_erase_self Job.id j.id h.jobs
    rw [active, hgone, active_eq hj, hnone]
    rfl
  · have hother : (h.release j result).job? id = h.job? id :=
      Keyed.get?_erase_of_ne Job.id (Ne.symm hsame) h.jobs
    rw [active, active, hother]

/-- A step of a job with which it begins no provider and ends none changes nothing of providers. -/
theorem idles_go {step : JobStep} (hbegun : h.begun o id step = []) (hend : step ≠ .endFirst) :
    h.Idles (h.go o id step) := by
  cases step with
  | endFirst => exact absurd rfl hend
  | beginNext =>
    rw [go]
    rcases beginNext_of_begins_nil hbegun with
      he | ⟨j, p, pending, active, outcomes, hj, hstage, he⟩
    · rw [he]
      exact .refl h
    · rw [he]
      exact idles_put rfl hj rfl hstage rfl rfl rfl
  | enter =>
    rw [go, enter]
    split
    · next j hj =>
      split
      · next hstage =>
        dsimp only
        split <;> exact idles_put rfl hj rfl hstage rfl rfl rfl
      · exact .refl h
    · exact .refl h
  | announce =>
    rw [go, announce]
    split
    · next j hj =>
      split
      · next hstage => exact idles_put rfl hj rfl hstage rfl rfl rfl
      · exact .refl h
    · exact .refl h
  | begin =>
    rw [go, begin]
    split
    · next j hj =>
      split
      · next hstage =>
        split
        · exact idles_put rfl hj rfl hstage rfl rfl rfl
        · split
          · exact idles_put rfl hj rfl hstage rfl rfl rfl
          · exact idles_release hj hstage rfl _
          · exact idles_put rfl hj rfl hstage rfl rfl rfl
      · exact .refl h
    · exact .refl h
  | finish =>
    rw [go, finish]
    split
    · next j hj =>
      split
      · next hstage => exact idles_put rfl hj rfl hstage rfl rfl rfl
      · exact .refl h
    · exact .refl h
  | forget =>
    rw [go, forget]
    split
    · next j hj =>
      split
      · next hstage =>
        dsimp only
        split <;> exact idles_put rfl hj rfl hstage rfl rfl rfl
      · exact .refl h
    · exact .refl h
  | recordEnd =>
    rw [go, recordEnd]
    split
    · next j hj =>
      split
      · next hstage => exact idles_put rfl hj rfl hstage rfl rfl rfl
      · exact .refl h
    · exact .refl h
  | leave =>
    rw [go, leave]
    split
    · next j hj =>
      split
      · next hstage => exact idles_release hj hstage rfl _
      · exact .refl h
    · exact .refl h

theorem idles_cancel (h : Harvester σ) (id : Nat) : h.Idles (h.cancel id) := by
  rw [cancel]
  split
  · next j hj => exact idles_put rfl hj rfl rfl rfl rfl rfl
  · exact .refl h

theorem idles_cancelPeriodic (h : Harvester σ) (tenant : String) :
    h.Idles (h.cancelPeriodic tenant).2 := by
  rw [cancelPeriodic]
  split
  · next p hp =>
    obtain ⟨hrecords, hsource, hactive⟩ := idles_cancel
      { h with periodic := Keyed.erase PeriodicJob.tenant tenant h.periodic } p.job
    exact ⟨hrecords, hsource, hactive⟩
  · exact .refl h

/-- A new job fetches nothing yet. -/
theorem idles_accept {key : JobKey} {origin : Origin} {provider : Option Provider} {id : Nat}
    (haccept : h.accept key origin provider = .ok (id, h')) : h.Idles h' := by
  obtain ⟨-, rfl⟩ := accept_eq haccept
  refine ⟨rfl, rfl, ?_⟩
  intro id
  simp only [active, job?, Keyed.get?, List.find?_append]
  cases h.jobs.find? (·.id = id) with
  | some j => rfl
  | none =>
    rw [Option.none_or, List.find?_cons]
    split <;> rfl

end Harvester
end UsageReports
