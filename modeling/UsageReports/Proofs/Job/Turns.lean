import UsageReports.Proofs.Job.Course

/-!
# Turns of a harvester

Jobs are asked for, go on step by step, and are cancelled, while what the harvester works with
changes around them; only looking up providers never breaks down. Each turn is one of a few changes,
in which at most one job comes, goes on or leaves. All else that is said of turns is said of these
changes.
-/

namespace UsageReports

variable {σ : Type}

/-- What a job is asked for: all providers of a tenant, or one of them. -/
inductive JobRequest where
  | whole (tenant : String) (origin : Origin)
  | single (tenant provider : String)

/-- The key that a requested job is to hold. -/
def JobRequest.key : JobRequest → JobKey
  | whole tenant _ => ⟨tenant, none⟩
  | single tenant provider => ⟨tenant, some provider⟩

/-- What may happen in a harvester where no lookup breaks down. A job is asked for; a step of a job;
a provider that a job fetches comes to its end; a manual job is cancelled by who asked for it; the
periodic job of a tenant is cancelled; and what the harvester works with is changed. -/
inductive Turn (σ : Type) where
  | ask (request : JobRequest)
  | job (id : Nat) (step : JobStep)
  | endAt (id place : Nat)
  | cancel (id : Nat)
  | cancelPeriodic (tenant : String)
  | outside (directory : Directory) (unread : List (String × StoreError)) (records : RecordStore)
      (source : σ)

namespace Harvester

/-! ## Requests -/

/-- Start a requested job. -/
def request (h : Harvester σ) : JobRequest → Except JobError (Nat × Harvester σ)
  | .whole tenant origin => h.startTenant tenant origin
  | .single tenant provider => h.startProvider tenant provider

/-- Let a requested job hold its key. -/
def grant (h : Harvester σ) : JobRequest → Except JobError (Nat × Harvester σ)
  | .whole tenant origin => h.accept ⟨tenant, none⟩ origin none
  | .single tenant provider =>
    match h.lookupFault? tenant with
    | some (.failing e) => .error (.store e)
    | _ =>
      match h.directory.byId? tenant provider with
      | none => .error (.providerNotFound tenant provider)
      | some p => h.accept ⟨tenant, some provider⟩ .manual (some p)

/-- To start a job is to let it hold its key, to enter it, and to announce it. -/
theorem request_eq (h : Harvester σ) (request : JobRequest) :
    h.request request =
      (h.grant request).map fun (id, h') ↦ (id, (h'.enter id).announce id) := by
  cases request with
  | whole tenant origin => rfl
  | single tenant provider =>
    simp only [Harvester.request, startProvider, grant]
    rcases h.lookupFault? tenant with _ | _ | _ <;>
      cases h.directory.byId? tenant provider <;> rfl

/-! ### Requests in steps

The same once more, as steps that change a harvester one after the other. A step that fails leaves
what the steps before it did. -/

/-- Let a new job hold a key in the registry; tells its number. -/
def holdKey (key : JobKey) : EStateM JobError (Harvester σ) Nat := do
  let h ← get
  match h.registry.acquire h.nextJob key with
  | .error e => throw e
  | .ok registry =>
    set { h with registry, nextJob := h.nextJob + 1 }
    return h.nextJob

/-- Take a key for a job, and then put the job there, enter it and announce it. -/
def startInSteps (key : JobKey) (origin : Origin) (provider : Option Provider) :
    EStateM JobError (Harvester σ) Nat := do
  let id ← holdKey key
  modify fun h ↦ { h with jobs := h.jobs ++ [{ id, key, origin, provider }] }
  modify fun h ↦ h.enter id
  modify fun h ↦ h.announce id
  return id

/-- Look up the provider of a job. -/
def findProvider (tenant provider : String) : EStateM JobError (Harvester σ) Provider := do
  let h ← get
  match h.lookupFault? tenant with
  | some (.failing e) => throw (.store e)
  | _ =>
    match h.directory.byId? tenant provider with
    | none => throw (.providerNotFound tenant provider)
    | some p => return p

/-- Start a requested job in steps. -/
def requestInSteps : JobRequest → EStateM JobError (Harvester σ) Nat
  | .whole tenant origin => startInSteps ⟨tenant, none⟩ origin none
  | .single tenant provider => do
    let p ← findProvider tenant provider
    startInSteps ⟨tenant, some provider⟩ .manual (some p)

/-- What a step leaves, given what comes of it and what is left if nothing does. -/
def afterStep {α : Type} (h : Harvester σ) :
    Except JobError (α × Harvester σ) → EStateM.Result JobError (Harvester σ) α
  | .ok (a, h') => .ok a h'
  | .error e => .error e h

theorem run_holdKey (h : Harvester σ) (key : JobKey) :
    (holdKey key).run h =
      h.afterStep ((h.registry.acquire h.nextJob key).map fun registry ↦
        (h.nextJob, { h with registry, nextJob := h.nextJob + 1 })) := by
  rw [holdKey, EStateM.run_bind, EStateM.run_get]
  cases hacquire : h.registry.acquire h.nextJob key with
  | error e => simp only [hacquire]; rfl
  | ok registry => simp only [hacquire]; rfl

theorem run_startInSteps (h : Harvester σ) (key : JobKey) (origin : Origin)
    (provider : Option Provider) :
    (startInSteps key origin provider).run h = h.afterStep (h.start key origin provider) := by
  rw [startInSteps, EStateM.run_bind, run_holdKey, start, accept]
  cases h.registry.acquire h.nextJob key <;> rfl

/-- A request in steps comes to the same, and leaves everything as it was if it is refused. -/
theorem run_requestInSteps (h : Harvester σ) (request : JobRequest) :
    (requestInSteps request).run h = h.afterStep (h.request request) := by
  cases request with
  | whole tenant origin => exact h.run_startInSteps ⟨tenant, none⟩ origin none
  | single tenant provider =>
    have hstart (p : Provider) :=
      h.run_startInSteps ⟨tenant, some provider⟩ .manual (some p)
    rw [requestInSteps, EStateM.run_bind, findProvider, EStateM.run_bind, EStateM.run_get,
      Harvester.request, startProvider]
    simp only
    rcases h.lookupFault? tenant with _ | _ | _ <;>
      cases h.directory.byId? tenant provider <;> first | rfl | exact hstart _

/-- Whether the provider of a request cannot be found. -/
def Lacks (h : Harvester σ) : JobRequest → Prop
  | .whole _ _ => False
  | .single tenant provider =>
    (∃ e, h.lookupFault? tenant = some (.failing e)) ∨ h.directory.byId? tenant provider = none

/-- Whether some job holds a key that stands in the way of a request. -/
def Blocks (h : Harvester σ) (request : JobRequest) : Prop :=
  ∃ j ∈ h.jobs, j.key.Conflicts request.key

/-- A requested job is accepted under the key of the request, if its provider is found. -/
theorem grant_cases (h : Harvester σ) (request : JobRequest) :
    (∃ e, h.grant request = .error e) ∧ h.Lacks request ∨
      ¬ h.Lacks request ∧ ∃ origin provider,
        (origin = .periodic → provider = none ∧ request.key.provider = none) ∧
          h.grant request = h.accept request.key origin provider := by
  cases request with
  | whole tenant origin => exact Or.inr ⟨not_false, origin, none, fun _ ↦ ⟨rfl, rfl⟩, rfl⟩
  | single tenant provider =>
    rw [grant]
    split
    · next _ e he => exact Or.inl ⟨⟨_, rfl⟩, Or.inl ⟨e, he⟩⟩
    · next _ hread =>
      split
      · next hnone => exact Or.inl ⟨⟨_, rfl⟩, Or.inr hnone⟩
      · next _ p hp =>
        refine Or.inr ⟨?_, .manual, some p, fun h ↦ by contradiction, rfl⟩
        rintro (⟨e, he⟩ | hnone)
        · exact hread e he
        · rw [hp] at hnone
          contradiction

/-! ## Changes -/

/-- What a turn does. -/
def turn (o : Outfit σ) (h : Harvester σ) : Turn σ → Harvester σ
  | .ask request =>
    match h.grant request with
    | .ok (_, h') => h'
    | .error _ => h
  | .job id step => h.go o id step
  | .endAt id place => h.endAt o id place
  | .cancel id =>
    match h.job? id with
    | some j => if j.origin = .manual then h.cancel id else h
    | none => h
  | .cancelPeriodic tenant => (h.cancelPeriodic tenant).2
  | .outside directory unread records source =>
    { h with directory, records, source
             lookupFaults := unread.map fun (tenant, e) ↦ (tenant, .failing e) }

/-- What turns do, taken one after the other. -/
def through (o : Outfit σ) (h : Harvester σ) (turns : List (Turn σ)) : Harvester σ :=
  turns.foldl (turn o) h

/-- Whether no lookup breaks down. -/
def Unbroken (h : Harvester σ) : Prop := ∀ tenant, h.lookupFault? tenant ≠ some .breaking

/-- What a turn may do to a harvester. -/
inductive Change (h : Harvester σ) : Harvester σ → Prop
  | goes {h' : Harvester σ} (hg : h.Goes h') : Change h h'
  | accept {key : JobKey} {origin : Origin} {provider : Option Provider} {id : Nat}
    {h' : Harvester σ} (hwhole : origin = .periodic → provider = none ∧ key.provider = none)
    (haccept : h.accept key origin provider = .ok (id, h')) : Change h h'
  | cancel {j : Job σ} (hj : h.job? j.id = some j) (hmanual : j.origin = .manual) :
    Change h (h.putJob { j with isCancelled := true })
  | cancelPeriodic (tenant : String) : Change h (h.cancelPeriodic tenant).2
  | outside (directory : Directory) {lookupFaults : List (String × LookupFault)}
    (hread : ∀ tenant, lookupFaults.lookup tenant ≠ some .breaking) (records : RecordStore)
    (source : σ) : Change h { h with directory, lookupFaults, records, source }

variable {o : Outfit σ} {h : Harvester σ}

theorem goes_endAt (o : Outfit σ) (h : Harvester σ) (id place : Nat) :
    h.Goes (h.endAt o id place) := by
  unfold endAt
  split
  · next j hj =>
    obtain rfl := id_of_job? hj
    split
    · next hstage =>
      have hfrom : j.stage.rank = 2 ∨ j.stage.rank = 3 := by simp [hstage, JobStage.rank]
      split
      · exact .run (.running _ _ _) hj hfrom (Or.inl rfl) _ _
      · exact .stay
    · exact .stay
  · exact .stay

/-- A lookup that fails does not break down. -/
theorem lookup_failing (unread : List (String × StoreError)) (tenant : String) :
    (unread.map fun (t, e) ↦ (t, LookupFault.failing e)).lookup tenant ≠ some .breaking := by
  induction unread with
  | nil => rintro ⟨⟩
  | cons x rest ih =>
    rw [List.map_cons, List.lookup_cons]
    split
    · rintro ⟨⟩
    · exact ih

/-- Every turn is one of the changes. -/
theorem change_turn (o : Outfit σ) (h : Harvester σ) (t : Turn σ) : h.Change (h.turn o t) := by
  cases t with
  | ask request =>
    rw [turn]
    rcases h.grant_cases request with ⟨⟨e, he⟩, -⟩ | ⟨-, origin, provider, hwhole, hgrant⟩
    · rw [he]
      exact .goes .stay
    · rw [hgrant]
      split
      · next haccept => exact .accept hwhole haccept
      · exact .goes .stay
  | job id step => exact .goes (goes_go o h id step)
  | endAt id place => exact .goes (goes_endAt o h id place)
  | cancel id =>
    rw [turn]
    split
    · next j hj =>
      obtain rfl := id_of_job? hj
      split
      · next hmanual =>
        have hcancel : h.cancel j.id = h.putJob { j with isCancelled := true } := by
          rw [Harvester.cancel, hj]
        rw [hcancel]
        exact .cancel hj hmanual
      · exact .goes .stay
    · exact .goes .stay
  | cancelPeriodic tenant => exact .cancelPeriodic tenant
  | outside directory unread records source => exact .outside _ (lookup_failing unread) _ _

/-! ## What every change keeps -/

theorem Orderly.change (ho : h.Orderly) {h' : Harvester σ} (hc : h.Change h') : h'.Orderly := by
  cases hc with
  | goes hg => exact ho.moves hg.moves
  | accept hwhole haccept => exact ho.accept hwhole haccept
  | @cancel j hj =>
    have hcancel := ho.cancel j.id
    rwa [Harvester.cancel, hj] at hcancel
  | cancelPeriodic tenant => exact ho.cancelPeriodic tenant
  | outside => exact ⟨ho.ids, ho.id_lt, ho.held, ho.exclusive, ho.whole, ho.entered⟩

theorem Unbroken.change (hread : h.Unbroken) {h' : Harvester σ} (hc : h.Change h') :
    h'.Unbroken := by
  cases hc with
  | goes hg => cases hg <;> exact hread
  | accept hwhole haccept =>
    obtain ⟨-, rfl⟩ := accept_eq haccept
    exact hread
  | cancel => exact hread
  | cancelPeriodic tenant =>
    rcases h.cancelPeriodic_cases tenant with he | ⟨periodic, id, he⟩ <;> rw [he]
    · exact hread
    · unfold Harvester.cancel
      split <;> exact hread
  | outside directory hfaults => exact hfaults

/-! ## Reachable harvesters -/

/-- A harvester that has no job yet. -/
def idle (directory : Directory) (unread : List (String × StoreError)) (records : RecordStore)
    (source : σ) : Harvester σ :=
  { directory, records, source, lookupFaults := unread.map fun (tenant, e) ↦ (tenant, .failing e) }

/-- Whether there is order among the jobs and no lookup breaks down. -/
structure Steady (h : Harvester σ) : Prop where
  orderly : h.Orderly
  unbroken : h.Unbroken

theorem steady_idle (directory : Directory) (unread : List (String × StoreError))
    (records : RecordStore) (source : σ) : (idle directory unread records source).Steady where
  orderly := .new directory _ records source
  unbroken := lookup_failing unread

theorem Steady.change (hs : h.Steady) {h' : Harvester σ} (hc : h.Change h') : h'.Steady :=
  ⟨hs.orderly.change hc, hs.unbroken.change hc⟩

/-- What each change of a steady harvester keeps holds after any turns. -/
theorem through_induction {motive : Harvester σ → Prop}
    (hchange : ∀ h h' : Harvester σ, h.Steady → h.Change h' → motive h → motive h')
    (hs : h.Steady) (hm : motive h) (turns : List (Turn σ)) :
    (h.through o turns).Steady ∧ motive (h.through o turns) := by
  induction turns generalizing h with
  | nil => exact ⟨hs, hm⟩
  | cons t rest ih =>
    have hc := change_turn o h t
    exact ih (hs.change hc) (hchange h _ hs hc hm)

end Harvester
end UsageReports
