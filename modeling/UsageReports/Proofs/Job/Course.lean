import UsageReports.Proofs.Job.Deletion

/-!
# The course of a job

A job among others, while jobs are accepted, go on and are cancelled and the providers that they
fetch come to their end in any order. What an event does to a running job is said once, by how the
job proceeds; all else in the harvester may change around it.
-/

namespace UsageReports

variable {σ : Type}

/-- What may happen in a harvester: a job is asked for; a step of a job; a provider that a job
fetches comes to its end, any one of them; somebody cancels a job, or the periodic job of a tenant;
and what the harvester works with is changed from outside. -/
inductive HarvesterEvent (σ : Type) where
  | accept (key : JobKey) (origin : Origin) (provider : Option Provider)
  | job (id : Nat) (step : JobStep)
  | endAt (id place : Nat)
  | cancel (id : Nat)
  | cancelPeriodic (tenant : String)
  | outside (directory : Directory) (lookupFaults : List (String × LookupFault))
      (records : RecordStore) (source : σ)

namespace Harvester

/-- Let the provider that a job fetches at a place come to its end. -/
def endAt (o : Outfit σ) (h : Harvester σ) (id place : Nat) : Harvester σ :=
  match h.job? id with
  | some j =>
    match j.stage with
    | .running pending active outcomes =>
      match active[place]? with
      | some f =>
        let f := o.finish f h.source
        let (run, records) := o.conclude f h.records
        let outcome : Outcome := ⟨run.provider, some (.ok run)⟩
        { h with records, source := f.timeline.source }.putJob
          { j with stage := .running pending (active.eraseIdx place) (outcomes ++ [outcome]) }
      | none => h
    | _ => h
  | none => h

/-- Ending the first is ending the one at the first place. -/
theorem endFirst_eq_endAt (o : Outfit σ) (h : Harvester σ) (id : Nat) :
    h.endFirst o id = h.endAt o id 0 := by
  unfold endFirst endAt
  cases h.job? id with
  | none => rfl
  | some j =>
    dsimp only
    cases j.stage with
    | running pending active outcomes => cases active <;> rfl
    | _ => rfl

/-- What a harvester is after an event. -/
def step (o : Outfit σ) (h : Harvester σ) : HarvesterEvent σ → Harvester σ
  | .accept key origin provider => h.tryAccept key origin provider
  | .job id step => h.go o id step
  | .endAt id place => h.endAt o id place
  | .cancel id => h.cancel id
  | .cancelPeriodic tenant => (h.cancelPeriodic tenant).2
  | .outside directory lookupFaults records source =>
    { h with directory, lookupFaults, records, source }

/-- What a harvester is after events, one after the other. -/
def after (o : Outfit σ) (h : Harvester σ) (events : List (HarvesterEvent σ)) : Harvester σ :=
  events.foldl (step o) h

/-- The providers that a job begins with an event. -/
def starts (o : Outfit σ) (h : Harvester σ) (id : Nat) : HarvesterEvent σ → List Provider
  | .job id' step => if id' = id then (h.begun o id step).map Prod.snd else []
  | _ => []

/-- The providers that a job begins with events, one after the other. -/
def startsAlong (o : Outfit σ) (h : Harvester σ) (id : Nat) :
    List (HarvesterEvent σ) → List Provider
  | [] => []
  | e :: rest => h.starts o id e ++ startsAlong o (h.step o e) id rest

end Harvester

/-- The result of a job that has one. -/
def JobStage.result? : JobStage σ → Option (Except JobError Summary)
  | .ended result | .forgotten result | .recorded result => some result
  | .keyed | .entered | .started | .running _ _ _ => none

/-- How a job that runs or has its result may proceed with an event, and what it begins then. -/
inductive Job.Proceeds (o : Outfit σ) (j : Job σ) : List Provider → Option (Job σ) → Prop
  | stay : j.Proceeds o [] (some j)
  | cancel : j.Proceeds o [] (some { j with isCancelled := true })
  /-- A provider is put down as not started. -/
  | skip {p : Provider} {pending : List Provider} {active : List (Fetching σ)}
      {outcomes : List Outcome} (hstage : j.stage = .running (p :: pending) active outcomes)
      (hcancelled : j.isCancelled = true) :
      j.Proceeds o []
        (some { j with stage := .running pending active (outcomes ++ [⟨p.id, none⟩]) })
  /-- A provider is done with at once. -/
  | settle {p : Provider} {pending : List Provider} {active : List (Fetching σ)}
      {outcomes : List Outcome} (hstage : j.stage = .running (p :: pending) active outcomes)
      (hroom : active.length < Harvester.room o)
      (result : Except JobError ProviderRun)
      (hnamed : ∀ run, result = .ok run → run.provider = p.id) :
      j.Proceeds o [p]
        (some { j with stage := .running pending active (outcomes ++ [⟨p.id, some result⟩]) })
  /-- A provider is fetched. -/
  | fetch {f : Fetching σ} {pending : List Provider} {active : List (Fetching σ)}
      {outcomes : List Outcome}
      (hstage : j.stage = .running (f.provider :: pending) active outcomes)
      (hroom : active.length < Harvester.room o) :
      j.Proceeds o [f.provider]
        (some { j with stage := .running pending (active ++ [f]) outcomes })
  /-- A provider that is fetched comes to its end. -/
  | done {place : Nat} {f : Fetching σ} {pending : List Provider} {active : List (Fetching σ)}
      {outcomes : List Outcome} (hstage : j.stage = .running pending active outcomes)
      (hf : active[place]? = some f) (run : ProviderRun) (hnamed : run.provider = f.provider.id) :
      j.Proceeds o []
        (some { j with stage := .running pending (active.eraseIdx place)
                         (outcomes ++ [⟨run.provider, some (.ok run)⟩]) })
  | finish {outcomes : List Outcome} (hstage : j.stage = .running [] [] outcomes) :
      j.Proceeds o [] (some { j with stage := .ended (j.result outcomes) })
  | goOn {result : Except JobError Summary} (hresult : j.stage.result? = some result)
      {stage : JobStage σ} (hkept : stage.result? = some result) :
      j.Proceeds o [] (some { j with stage })
  | leave {result : Except JobError Summary} (hresult : j.stage.result? = some result) :
      j.Proceeds o [] none

namespace Harvester

variable {o : Outfit σ} {h : Harvester σ} {id : Nat} {j : Job σ}

/-! ### Other jobs -/

section Others

variable {id' : Nat} (hj : h.job? id' = some j) (hne : id' ≠ id)
include hne hj

theorem job?_put_of_ne (stage : JobStage σ) :
    Keyed.get? Job.id id (Keyed.put Job.id { j with stage } h.jobs) = h.job? id :=
  Keyed.get?_put_of_ne Job.id (id_of_job? hj ▸ hne) h.jobs

theorem job?_putCancelled_of_ne :
    (h.putJob { j with isCancelled := true }).job? id = h.job? id :=
  Keyed.get?_put_of_ne Job.id (id_of_job? hj ▸ hne) h.jobs

theorem job?_release_of_ne (result : Except JobError Summary) :
    (h.release j result).job? id = h.job? id :=
  Keyed.get?_erase_of_ne Job.id (id_of_job? hj ▸ hne) h.jobs

end Others

theorem job?_endAt_of_ne {id' : Nat} (hne : id' ≠ id) (place : Nat) :
    (h.endAt o id' place).job? id = h.job? id := by
  unfold endAt
  split
  · split
    · split
      · exact job?_put_of_ne ‹_› hne _
      · rfl
    · rfl
  · rfl

theorem job?_beginNext_of_ne {id' : Nat} (hne : id' ≠ id) :
    (h.beginNext o id').job? id = h.job? id := by
  unfold beginNext
  split
  · split
    · split
      · rfl
      · split
        · exact job?_put_of_ne ‹_› hne _
        · split <;> exact job?_put_of_ne ‹_› hne _
    · rfl
  · rfl

/-- A step of a job changes no other job. -/
theorem job?_go_of_ne {id' : Nat} (hne : id' ≠ id) (step : JobStep) :
    (h.go o id' step).job? id = h.job? id := by
  cases step <;> simp only [go, enter, announce, begin, finish, forget, recordEnd, leave]
  case beginNext => exact job?_beginNext_of_ne hne
  case endFirst =>
    rw [endFirst_eq_endAt]
    exact job?_endAt_of_ne hne 0
  case enter =>
    split
    · split
      · split <;> exact job?_put_of_ne ‹_› hne _
      · rfl
    · rfl
  case begin =>
    split
    · split
      · split
        · exact job?_put_of_ne ‹_› hne _
        · split
          · exact job?_put_of_ne ‹_› hne _
          · exact job?_release_of_ne ‹_› hne _
          · exact job?_put_of_ne ‹_› hne _
      · rfl
    · rfl
  case forget =>
    split
    · split
      · split <;> exact job?_put_of_ne ‹_› hne _
      · rfl
    · rfl
  case announce | finish | recordEnd =>
    split
    · split
      · exact job?_put_of_ne ‹_› hne _
      · rfl
    · rfl
  case leave =>
    split
    · split
      · exact job?_release_of_ne ‹_› hne _
      · rfl
    · rfl

/-! ### The job itself -/

theorem proceeds_put {j' : Job σ} {begun : List Provider} (hj : h.job? id = some j)
    (hid : j'.id = j.id) (hp : j.Proceeds o begun (some j')) :
    j.Proceeds o begun (Keyed.get? Job.id id (Keyed.put Job.id j' h.jobs)) := by
  obtain rfl : j'.id = id := hid.trans (id_of_job? hj)
  rw [Keyed.get?_put_self]
  exact hp

theorem proceeds_stay (hj : h.job? id = some j) : j.Proceeds o [] (h.job? id) := by
  rw [hj]
  exact .stay

/-- What is not fetched tells the provider that it came of. -/
theorem provider_of_nothing {records : RecordStore} {p : Provider} {run : ProviderRun}
    (hopening : o.opening records p = .ok (.nothing run)) : run.provider = p.id := by
  unfold Outfit.opening at hopening
  split at hopening
  · contradiction
  · split at hopening
    · rw [← Opening.nothing.inj (Except.ok.inj hopening)]
    · rw [← Opening.nothing.inj (Except.ok.inj hopening)]
    · split at hopening
      · contradiction
      · exact Opening.noConfusion (Except.ok.inj hopening)

theorem proceeds_beginNext (hj : h.job? id = some j) :
    j.Proceeds o ((h.begins o id).map Prod.snd) ((h.beginNext o id).job? id) := by
  unfold begins beginNext
  rw [hj]
  dsimp only
  cases hstage : j.stage with
  | running pending active outcomes =>
    cases pending with
    | nil => exact proceeds_stay hj
    | cons p pending =>
      dsimp only
      by_cases hroom : active.length < room o
      · rw [if_neg (Nat.not_le.mpr hroom)]
        by_cases hcancelled : j.isCancelled = true ∧ j.provider = none
        · have hskips : (j.isCancelled && j.provider.isNone) = true := by
            rw [hcancelled.1, hcancelled.2]
            rfl
          rw [if_pos hskips, if_neg fun hgoes ↦ hgoes.2 hcancelled]
          exact proceeds_put hj rfl (.skip hstage hcancelled.1)
        · have hgoes : ¬(j.isCancelled && j.provider.isNone) = true := by
            rwa [Bool.and_eq_true, Option.isNone_iff_eq_none]
          rw [if_neg hgoes, if_pos ⟨hroom, hcancelled⟩]
          split
          · exact proceeds_put hj rfl (.settle hstage hroom _ fun _ h ↦ by contradiction)
          · next run hopening =>
            refine proceeds_put hj rfl (.settle hstage hroom _ ?_)
            intro run' hrun
            rw [← Except.ok.inj hrun]
            exact provider_of_nothing hopening
          · next plan _ =>
            exact proceeds_put hj rfl (.fetch (f := o.launch p plan h.source) hstage hroom)
      · rw [if_pos (Nat.not_lt.mp hroom), if_neg fun hgoes ↦ hroom hgoes.1]
        exact proceeds_stay hj
  | _ => exact proceeds_stay hj

theorem proceeds_endAt (hj : h.job? id = some j) (place : Nat) :
    j.Proceeds o [] ((h.endAt o id place).job? id) := by
  unfold endAt
  rw [hj]
  dsimp only
  cases hstage : j.stage with
  | running pending active outcomes =>
    dsimp only
    split
    · next f hf => exact proceeds_put hj rfl (.done hstage hf _ rfl)
    · exact proceeds_stay hj
  | _ => exact proceeds_stay hj

theorem proceeds_finish (hj : h.job? id = some j) : j.Proceeds o [] ((h.finish id).job? id) := by
  unfold finish
  rw [hj]
  dsimp only
  split
  · next hstage => exact proceeds_put hj rfl (.finish hstage)
  · exact proceeds_stay hj

theorem proceeds_forget (hj : h.job? id = some j) : j.Proceeds o [] ((h.forget id).job? id) := by
  unfold forget
  rw [hj]
  dsimp only
  split
  · next result hstage =>
    have hresult : j.stage.result? = some result := by rw [hstage, JobStage.result?]
    split <;> exact proceeds_put hj rfl (.goOn hresult rfl)
  · exact proceeds_stay hj

theorem proceeds_recordEnd (hj : h.job? id = some j) :
    j.Proceeds o [] ((h.recordEnd id).job? id) := by
  unfold recordEnd
  rw [hj]
  dsimp only
  split
  · next result hstage =>
    have hresult : j.stage.result? = some result := by rw [hstage, JobStage.result?]
    exact proceeds_put hj rfl (.goOn hresult rfl)
  · exact proceeds_stay hj

theorem proceeds_leave (hj : h.job? id = some j) : j.Proceeds o [] ((h.leave id).job? id) := by
  unfold leave
  rw [hj]
  dsimp only
  split
  · next result hstage =>
    have hresult : j.stage.result? = some result := by rw [hstage, JobStage.result?]
    have hgone : (h.release j result).job? id = none := by
      obtain rfl := id_of_job? hj
      exact Keyed.get?_erase_self Job.id j.id h.jobs
    rw [hgone]
    exact .leave hresult
  · exact proceeds_stay hj

/-- A step takes a job that runs or has its result on from where it is. -/
theorem proceeds_go (hj : h.job? id = some j) (hrank : 3 ≤ j.stage.rank) (step : JobStep) :
    j.Proceeds o ((h.begun o id step).map Prod.snd) ((h.go o id step).job? id) := by
  cases step with
  | beginNext => exact proceeds_beginNext hj
  | endFirst =>
    rw [go, endFirst_eq_endAt]
    exact proceeds_endAt hj 0
  | finish => exact proceeds_finish hj
  | forget => exact proceeds_forget hj
  | recordEnd => exact proceeds_recordEnd hj
  | leave => exact proceeds_leave hj
  | enter =>
    rw [go, enter, hj]
    dsimp only
    split
    · next hstage =>
      rw [hstage] at hrank
      contradiction
    · exact proceeds_stay hj
  | announce =>
    rw [go, announce, hj]
    dsimp only
    split
    · next hstage =>
      rw [hstage] at hrank
      contradiction
    · exact proceeds_stay hj
  | begin =>
    rw [go, begin, hj]
    dsimp only
    split
    · next hstage =>
      rw [hstage] at hrank
      contradiction
    · exact proceeds_stay hj

theorem proceeds_cancel (hj : h.job? id = some j) (id' : Nat) :
    j.Proceeds o [] ((h.cancel id').job? id) := by
  unfold cancel
  split
  · next i hi =>
    by_cases hid : id' = id
    · subst hid
      obtain rfl := Option.some.inj (hi.symm.trans hj)
      exact proceeds_put hj rfl .cancel
    · rw [job?_putCancelled_of_ne hi hid]
      exact proceeds_stay hj
  · exact proceeds_stay hj

/-- Cancelling the periodic job of a tenant is to cancel a job, if there is one. -/
theorem cancelPeriodic_cases (h : Harvester σ) (tenant : String) :
    (h.cancelPeriodic tenant).2 = h ∨
      ∃ periodic id, (h.cancelPeriodic tenant).2 = Harvester.cancel { h with periodic } id := by
  unfold cancelPeriodic
  split
  · exact .inr ⟨_, _, rfl⟩
  · exact .inl rfl

theorem proceeds_cancelPeriodic (hj : h.job? id = some j) (tenant : String) :
    j.Proceeds o [] ((h.cancelPeriodic tenant).2.job? id) := by
  rcases h.cancelPeriodic_cases tenant with hsame | ⟨periodic, id', hcancel⟩
  · rw [hsame]
    exact proceeds_stay hj
  · rw [hcancel]
    exact proceeds_cancel (h := { h with periodic }) hj id'

/-- Asking for a job adds one with a new number, or nothing. -/
theorem tryAccept_cases (h : Harvester σ) (key : JobKey) (origin : Origin)
    (provider : Option Provider) :
    h.tryAccept key origin provider = h ∨
      ∃ registry, h.tryAccept key origin provider =
        { h with registry, nextJob := h.nextJob + 1
                 jobs := h.jobs ++ [{ id := h.nextJob, key, origin, provider }] } := by
  unfold tryAccept accept
  cases h.registry.acquire h.nextJob key with
  | error e => exact .inl rfl
  | ok registry => exact .inr ⟨registry, rfl⟩

theorem job?_append (hj : h.job? id = some j) (more : List (Job σ)) :
    Keyed.get? Job.id id (h.jobs ++ more) = some j := by
  unfold job? Keyed.get? at hj
  rw [Keyed.get?, List.find?_append, hj, Option.some_or]

theorem proceeds_tryAccept (hj : h.job? id = some j) (key : JobKey) (origin : Origin)
    (provider : Option Provider) :
    j.Proceeds o [] ((h.tryAccept key origin provider).job? id) := by
  rcases h.tryAccept_cases key origin provider with hsame | ⟨registry, hadded⟩
  · rw [hsame]
    exact proceeds_stay hj
  · rw [hadded, job?, job?_append hj]
    exact .stay

/-- An event takes a job that runs or has its result on from where it is. -/
theorem proceeds_step (hj : h.job? id = some j) (hrank : 3 ≤ j.stage.rank)
    (e : HarvesterEvent σ) : j.Proceeds o (h.starts o id e) ((h.step o e).job? id) := by
  cases e with
  | accept key origin provider => exact proceeds_tryAccept hj key origin provider
  | job id' step =>
    simp only [starts, Harvester.step]
    by_cases hid : id' = id
    · subst hid
      rw [if_pos rfl]
      exact proceeds_go hj hrank step
    · rw [if_neg hid, job?_go_of_ne hid]
      exact proceeds_stay hj
  | endAt id' place =>
    by_cases hid : id' = id
    · subst hid
      exact proceeds_endAt hj place
    · rw [Harvester.step, job?_endAt_of_ne hid]
      exact proceeds_stay hj
  | cancel id' => exact proceeds_cancel hj id'
  | cancelPeriodic tenant => exact proceeds_cancelPeriodic hj tenant
  | outside directory lookupFaults records source => exact proceeds_stay hj

/-! ### Jobs that have left -/

theorem nextJob_cancel (h : Harvester σ) (id : Nat) : (h.cancel id).nextJob = h.nextJob := by
  unfold cancel
  split <;> rfl

theorem nextJob_endAt (h : Harvester σ) (id place : Nat) :
    (h.endAt o id place).nextJob = h.nextJob := by
  unfold endAt
  split
  · split
    · split <;> rfl
    · rfl
  · rfl

theorem Moves.nextJob_eq {h' : Harvester σ} (hm : h.Moves h') : h'.nextJob = h.nextJob := by
  cases hm <;> rfl

/-- Numbers of jobs are not given again. -/
theorem nextJob_le_step (h : Harvester σ) (e : HarvesterEvent σ) :
    h.nextJob ≤ (h.step o e).nextJob := by
  cases e with
  | accept key origin provider =>
    rw [Harvester.step]
    rcases h.tryAccept_cases key origin provider with hsame | ⟨registry, hadded⟩
    · rw [hsame]
    · rw [hadded]
      exact Nat.le_succ _
  | job id step => exact Nat.le_of_eq (moves_go o h id step).nextJob_eq.symm
  | endAt id place => exact Nat.le_of_eq (h.nextJob_endAt id place).symm
  | cancel id => exact Nat.le_of_eq (h.nextJob_cancel id).symm
  | cancelPeriodic tenant =>
    rw [Harvester.step]
    rcases h.cancelPeriodic_cases tenant with hsame | ⟨periodic, id, hcancel⟩
    · rw [hsame]
    · rw [hcancel, nextJob_cancel]
  | outside directory lookupFaults records source => exact Nat.le_refl _

theorem job?_cancel_of_none (hj : h.job? id = none) (id' : Nat) :
    (h.cancel id').job? id = none := by
  unfold cancel
  split
  · next i hi =>
    have hne : id' ≠ id := by
      rintro rfl
      exact Option.some_ne_none _ (hi.symm.trans hj)
    exact (job?_putCancelled_of_ne hi hne).trans hj
  · exact hj

/-- A job that has left does not come back. -/
theorem job?_step_of_none (hj : h.job? id = none) (hid : id < h.nextJob)
    (e : HarvesterEvent σ) : (h.step o e).job? id = none := by
  cases e with
  | accept key origin provider =>
    rw [Harvester.step]
    rcases h.tryAccept_cases key origin provider with hsame | ⟨registry, hadded⟩
    · rw [hsame, hj]
    · unfold job? Keyed.get? at hj ⊢
      rw [hadded, List.find?_append, hj, Option.none_or]
      simp [Nat.ne_of_gt hid]
  | job id' step =>
    by_cases hne : id' = id
    · subst hne
      have hsame : h.go o id' step = h := by
        cases step <;> simp only [go, enter, announce, begin, beginNext, endFirst, finish, forget,
          recordEnd, leave, hj]
      rw [Harvester.step, hsame, hj]
    · exact (job?_go_of_ne hne step).trans hj
  | endAt id' place =>
    by_cases hne : id' = id
    · subst hne
      rw [Harvester.step, endAt, hj]
      exact hj
    · exact (job?_endAt_of_ne hne place).trans hj
  | cancel id' => exact job?_cancel_of_none hj id'
  | cancelPeriodic tenant =>
    rw [Harvester.step]
    rcases h.cancelPeriodic_cases tenant with hsame | ⟨periodic, id', hcancel⟩
    · rw [hsame, hj]
    · rw [hcancel]
      exact job?_cancel_of_none (h := { h with periodic }) hj id'
  | outside directory lookupFaults records source => exact hj

/-- A job that is not there begins nothing. -/
theorem starts_of_none (hj : h.job? id = none) (e : HarvesterEvent σ) : h.starts o id e = [] := by
  cases e with
  | job id' step =>
    rw [starts]
    split
    · cases step <;> simp only [begun, begins, hj, List.map_nil]
    · rfl
  | _ => rfl

end Harvester
end UsageReports
