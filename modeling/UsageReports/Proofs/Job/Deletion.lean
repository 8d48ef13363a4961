import UsageReports.Job.Service
import UsageReports.Proofs.Job.Idle
import UsageReports.Proofs.Trigger.Missing

/-!
# Removing periodic triggers

A service removes a periodic trigger in two steps: the scheduler removes the trigger, then the
harvester cancels the periodic job. Timers, the loop that follows firings, and jobs take their steps
before, between and after these. If, when the second step is done, no firing of the tenant is on its
way and no periodic job of it has its key without being entered, then no periodic job of the tenant
begins a provider until the trigger is set again. Without that, one may. What begins no provider
and ends none leaves records, sources and all that is being fetched as they are.
-/

namespace UsageReports

variable {σ : Type}

/-- A service between its steps, and the firing that its loop has taken and not followed yet. -/
structure ServiceState (σ : Type) where
  harvester : Harvester σ
  scheduler : Scheduler
  taken : Option Firing := none

/-- What may happen in a service: an event of the scheduler; its loop takes a firing, or asks for a
periodic job for the one it has taken; somebody asks for a job by hand; a step of a job; somebody
cancels a job, or the periodic job of a tenant. -/
inductive ServiceEvent where
  | scheduler (e : SchedulerEvent)
  | take
  | follow
  | request (tenant : String)
  | requestProvider (tenant : String) (p : Provider)
  | job (id : Nat) (step : JobStep)
  | cancel (id : Nat)
  | cancelPeriodic (tenant : String)

/-- The tenant whose trigger an event sets. -/
def ServiceEvent.set? : ServiceEvent → Option String
  | scheduler e => e.set?
  | _ => none

/-- Ask for a job: it has its key afterwards, if there was nothing in the way. -/
def Harvester.tryAccept (h : Harvester σ) (key : JobKey) (origin : Origin)
    (provider : Option Provider) : Harvester σ :=
  match h.accept key origin provider with
  | .ok (_, h') => h'
  | .error _ => h

namespace ServiceState

/-- What a service is after an event. -/
def step (o : Outfit σ) (s : ServiceState σ) : ServiceEvent → ServiceState σ
  | .scheduler e => { s with scheduler := s.scheduler.step e }
  | .take =>
    match s.taken with
    | some _ => s
    | none => { s with taken := s.scheduler.receive.1, scheduler := s.scheduler.receive.2 }
  | .follow =>
    match s.taken with
    | some f =>
      { s with taken := none, harvester := s.harvester.tryAccept ⟨f.tenant, none⟩ .periodic none }
    | none => s
  | .request tenant => { s with harvester := s.harvester.tryAccept ⟨tenant, none⟩ .manual none }
  | .requestProvider tenant p =>
    { s with harvester := s.harvester.tryAccept ⟨tenant, some p.id⟩ .manual (some p) }
  | .job id step => { s with harvester := s.harvester.go o id step }
  | .cancel id => { s with harvester := s.harvester.cancel id }
  | .cancelPeriodic tenant => { s with harvester := (s.harvester.cancelPeriodic tenant).2 }

/-- What a service is after events, one after the other. -/
def after (o : Outfit σ) (s : ServiceState σ) (events : List ServiceEvent) : ServiceState σ :=
  events.foldl (step o) s

theorem after_append (o : Outfit σ) (s : ServiceState σ) (before more : List ServiceEvent) :
    s.after o (before ++ more) = (s.after o before).after o more := List.foldl_append

/-- The providers that jobs begin with an event. -/
def begun (o : Outfit σ) (s : ServiceState σ) : ServiceEvent → List (Job σ × Provider)
  | .job id step => s.harvester.begun o id step
  | _ => []

end ServiceState

/-! ## The operations of a service -/

namespace Service

/-- A service between its steps. -/
def state (s : Service σ) : ServiceState σ :=
  { harvester := s.harvester, scheduler := s.clock.scheduler }

/-- Setting a trigger is one event. -/
theorem state_setPeriodic (o : Outfit σ) (s : Service σ) (tenant : String) (interval : Interval)
    (start : Instant) :
    (s.setPeriodic tenant interval start).2.state =
      s.state.step o (.scheduler (.reconfigure tenant interval start s.clock.now)) := rfl

/-- Removing a trigger is two events. -/
theorem state_removePeriodic (o : Outfit σ) {s : Service σ} {tenant : String}
    (h : (s.removePeriodic tenant).1 = .ok ()) :
    (s.removePeriodic tenant).2.state =
      s.state.after o [.scheduler (.erase tenant), .cancelPeriodic tenant] := by
  have hstate : s.state.after o [.scheduler (.erase tenant), .cancelPeriodic tenant] =
      { harvester := (s.harvester.cancelPeriodic tenant).2
        scheduler := (s.clock.scheduler.erase tenant).2 } := rfl
  rw [hstate]
  unfold removePeriodic at h ⊢
  generalize s.clock.scheduler.erase tenant = erased at h ⊢
  obtain ⟨_ | _, scheduler⟩ := erased
  · contradiction
  · rfl

/-- Following a firing is to ask for a periodic job, to enter the job and to announce it. -/
theorem harvester_follow {s : Service σ} (ho : s.harvester.Orderly) (tenant : String) :
    (s.follow tenant).harvester =
      ((s.harvester.tryAccept ⟨tenant, none⟩ .periodic none).enter s.harvester.nextJob).announce
        s.harvester.nextJob := by
  unfold follow Harvester.startTenant Harvester.start Harvester.tryAccept Harvester.accept
  cases s.harvester.registry.acquire s.harvester.nextJob ⟨tenant, none⟩ with
  | error e => exact (ho.announce_enter_next).symm
  | ok registry => rfl

@[simp] theorem clock_follow (s : Service σ) (tenant : String) :
    (s.follow tenant).clock = s.clock := by
  unfold follow
  split <;> rfl

/-- Following the next firing is four events. -/
theorem state_followNext (o : Outfit σ) {s : Service σ} (ho : s.harvester.Orderly) :
    s.followNext.state = s.state.after o [.take, .follow, .job s.harvester.nextJob .enter,
      .job s.harvester.nextJob .announce] := by
  cases hsent : s.clock.scheduler.sent with
  | nil =>
    have hnext : s.followNext = s := by simp only [followNext, Scheduler.receive, hsent]
    have htake : s.state.step o .take = s.state := by
      simp only [ServiceState.step, state, Scheduler.receive, hsent]
    have hjob : (s.harvester.enter s.harvester.nextJob).announce s.harvester.nextJob =
        s.harvester := ho.announce_enter_next
    rw [hnext, ServiceState.after, List.foldl_cons, htake]
    simp only [List.foldl_cons, List.foldl_nil, ServiceState.step, state, Harvester.go, hjob]
  | cons f rest =>
    let scheduler : Scheduler := { s.clock.scheduler with sent := rest }
    let received : Service σ := { s with clock := { s.clock with scheduler } }
    have hnext : s.followNext = received.follow f.tenant := by
      simp only [followNext, Scheduler.receive, hsent, received, scheduler]
    have hfollow := harvester_follow (s := received) ho f.tenant
    have htake : s.state.step o .take = { s.state with scheduler, taken := some f } := by
      simp only [ServiceState.step, state, Scheduler.receive, hsent, scheduler]
    rw [hnext, ServiceState.after, List.foldl_cons, htake, state, hfollow, clock_follow]
    rfl

end Service

namespace ServiceState

/-- The parts of a service are in order. -/
structure Sound (s : ServiceState σ) : Prop where
  scheduler : s.scheduler.Orderly
  harvester : s.harvester.Orderly

/-- Nothing of a tenant is on its way, and its periodic jobs begin no more providers. -/
structure AtRest (s : ServiceState σ) (tenant : String) : Prop where
  silent : s.scheduler.Silent tenant
  taken : ∀ f, s.taken = some f → f.tenant ≠ tenant
  hushed : s.harvester.Hushed tenant

variable {o : Outfit σ} {s : ServiceState σ} {tenant : String}

theorem orderly_tryAccept {h : Harvester σ} (ho : h.Orderly) {key : JobKey} {origin : Origin}
    {provider : Option Provider}
    (hwhole : origin = .periodic → provider = none ∧ key.provider = none) :
    (h.tryAccept key origin provider).Orderly := by
  unfold Harvester.tryAccept
  split
  · next haccept => exact ho.accept hwhole haccept
  · exact ho

theorem hushed_tryAccept {h : Harvester σ} (hh : h.Hushed tenant) {key : JobKey} {origin : Origin}
    {provider : Option Provider} (hother : origin = .periodic → key.tenant ≠ tenant) :
    (h.tryAccept key origin provider).Hushed tenant := by
  unfold Harvester.tryAccept
  split
  · next haccept => exact hh.accept hother haccept
  · exact hh

theorem Sound.step (h : s.Sound) (e : ServiceEvent) : (s.step o e).Sound := by
  cases e with
  | scheduler e => exact ⟨h.scheduler.step e, h.harvester⟩
  | take =>
    rw [ServiceState.step]
    split
    · exact h
    · exact ⟨h.scheduler.step .receive, h.harvester⟩
  | follow =>
    rw [ServiceState.step]
    split
    · exact ⟨h.scheduler, orderly_tryAccept h.harvester fun _ ↦ ⟨rfl, rfl⟩⟩
    · exact h
  | request => exact ⟨h.scheduler, orderly_tryAccept h.harvester fun hp ↦ by contradiction⟩
  | requestProvider => exact ⟨h.scheduler, orderly_tryAccept h.harvester fun hp ↦ by contradiction⟩
  | job id step => exact ⟨h.scheduler, h.harvester.moves (Harvester.moves_go o _ id step)⟩
  | cancel id => exact ⟨h.scheduler, h.harvester.cancel id⟩
  | cancelPeriodic tenant => exact ⟨h.scheduler, h.harvester.cancelPeriodic tenant⟩

theorem Sound.after (h : s.Sound) (events : List ServiceEvent) : (s.after o events).Sound := by
  induction events generalizing s with
  | nil => exact h
  | cons e rest ih => exact ih (h.step e)

/-- A tenant without a trigger has none until it is set. -/
theorem missing_step (h : s.scheduler.Missing tenant) (hs : s.Sound) {e : ServiceEvent}
    (he : e.set? ≠ some tenant) : (s.step o e).scheduler.Missing tenant := by
  cases e with
  | scheduler e => exact h.step hs.scheduler he
  | take =>
    rw [ServiceState.step]
    split
    · exact h
    · exact h.step hs.scheduler (e := .receive) (Option.some_ne_none _).symm
  | follow =>
    rw [ServiceState.step]
    split <;> exact h
  | _ => exact h

theorem missing_after (h : s.scheduler.Missing tenant) (hs : s.Sound) {events : List ServiceEvent}
    (hset : ∀ e ∈ events, e.set? ≠ some tenant) : (s.after o events).scheduler.Missing tenant := by
  induction events generalizing s with
  | nil => exact h
  | cons e rest ih =>
    obtain ⟨he, hrest⟩ := List.forall_mem_cons.mp hset
    exact ih (missing_step h hs he) (hs.step e) hrest

namespace AtRest

/-- A tenant stays at rest until its trigger is set. -/
theorem step (h : s.AtRest tenant) (hs : s.Sound) {e : ServiceEvent}
    (he : e.set? ≠ some tenant) : (s.step o e).AtRest tenant := by
  cases e with
  | scheduler e => exact ⟨h.silent.step hs.scheduler he, h.taken, h.hushed⟩
  | take =>
    rw [ServiceState.step]
    split
    · exact h
    · have hsilent := h.silent.step hs.scheduler (e := .receive) (Option.some_ne_none _).symm
      refine ⟨hsilent, fun f hf ↦ h.silent.sent f ?_, h.hushed⟩
      simp only [Scheduler.receive] at hf
      split at hf
      · contradiction
      · next hsent =>
        rw [hsent, ← Option.some.inj hf]
        exact List.mem_cons_self
  | follow =>
    rw [ServiceState.step]
    split
    · next f hf =>
      have hhushed : (s.harvester.tryAccept ⟨f.tenant, none⟩ .periodic none).Hushed tenant :=
        hushed_tryAccept h.hushed fun _ ↦ h.taken f hf
      exact ⟨h.silent, fun _ hnone ↦ by contradiction, hhushed⟩
    · exact h
  | request =>
    exact ⟨h.silent, h.taken, hushed_tryAccept h.hushed fun hp ↦ by contradiction⟩
  | requestProvider =>
    exact ⟨h.silent, h.taken, hushed_tryAccept h.hushed fun hp ↦ by contradiction⟩
  | job id step =>
    exact ⟨h.silent, h.taken, h.hushed.moves hs.harvester (Harvester.moves_go o _ id step)⟩
  | cancel id => exact ⟨h.silent, h.taken, h.hushed.cancel hs.harvester id⟩
  | cancelPeriodic tenant' =>
    exact ⟨h.silent, h.taken, h.hushed.cancelPeriodic hs.harvester tenant'⟩

theorem after (h : s.AtRest tenant) (hs : s.Sound) {events : List ServiceEvent}
    (hset : ∀ e ∈ events, e.set? ≠ some tenant) : (s.after o events).AtRest tenant := by
  induction events generalizing s with
  | nil => exact h
  | cons e rest ih =>
    obtain ⟨he, hrest⟩ := List.forall_mem_cons.mp hset
    exact ih (h.step hs he) (hs.step e) hrest

theorem ne_of_begun (h : s.AtRest tenant) (hs : s.Sound) {e : ServiceEvent} {j : Job σ}
    {p : Provider} (hbegun : (j, p) ∈ s.begun o e) (hp : j.origin = .periodic) :
    j.key.tenant ≠ tenant := by
  cases e with
  | job id step => exact h.hushed.ne_of_begun hs.harvester hbegun hp
  | _ => contradiction

end AtRest

/-- An event with which no provider is begun and none comes to its end changes nothing of
providers. -/
theorem idles_step {e : ServiceEvent} (hbegun : s.begun o e = [])
    (hend : ∀ id, e ≠ .job id .endFirst) : s.harvester.Idles (s.step o e).harvester := by
  have htryAccept (key : JobKey) (origin : Origin) (provider : Option Provider) :
      s.harvester.Idles (s.harvester.tryAccept key origin provider) := by
    unfold Harvester.tryAccept
    split
    · next haccept => exact Harvester.idles_accept haccept
    · exact .refl _
  cases e with
  | scheduler => exact .refl _
  | take =>
    rw [step]
    split <;> exact .refl _
  | follow =>
    rw [step]
    split
    · exact htryAccept _ _ _
    · exact .refl _
  | request => exact htryAccept _ _ _
  | requestProvider => exact htryAccept _ _ _
  | job id step => exact Harvester.idles_go hbegun fun he ↦ hend id (by rw [he])
  | cancel id => exact s.harvester.idles_cancel id
  | cancelPeriodic tenant => exact s.harvester.idles_cancelPeriodic tenant

/-- A service that has not done anything yet. -/
def initial (directory : Directory) (lookupFaults : List (String × LookupFault))
    (records : RecordStore) (source : σ) (store : TriggerStore) : ServiceState σ :=
  { harvester := { directory, lookupFaults, records, source }, scheduler := .ofStore store }

theorem sound_initial (directory : Directory) (lookupFaults : List (String × LookupFault))
    (records : RecordStore) (source : σ) (store : TriggerStore) :
    (initial directory lookupFaults records source store).Sound where
  scheduler := .ofStore store
  harvester := .new directory lookupFaults records source

/-- A tenant's trigger is removed by the scheduler, and after any events `between` the harvester
cancels the tenant's periodic job. If by then no timer holds a firing of the tenant, none is sent
or taken, and no periodic job of the tenant has its key without being entered, then no periodic job
of the tenant begins a provider after any events `more`, unless the trigger was set again. An event
that begins no provider, and ends none, leaves the records, the sources and what each job fetches as
they are. -/
theorem ne_of_begun_after_removal {o : Outfit σ} {directory : Directory}
    {lookupFaults : List (String × LookupFault)} {records : RecordStore} {source : σ}
    {store : TriggerStore} {tenant : String} (before between more : List ServiceEvent)
    (hremoved : (((initial directory lookupFaults records source store).after o
      before).scheduler.erase tenant).1 = .ok ())
    (hset : ∀ e ∈ between ++ more, e.set? ≠ some tenant) :
    let s := (initial directory lookupFaults records source store).after o
      (before ++ .scheduler (.erase tenant) :: between ++ [.cancelPeriodic tenant])
    (∀ f ∈ s.scheduler.held ++ s.scheduler.sent ++ s.taken.toList, f.tenant ≠ tenant) →
    (∀ j ∈ s.harvester.jobs, j.origin = .periodic → j.key.tenant = tenant → 1 ≤ j.stage.rank) →
    ∀ e, (∀ begun ∈ (s.after o more).begun o e,
        begun.1.origin = .periodic → begun.1.key.tenant ≠ tenant) ∧
      ((s.after o more).begun o e = [] → (∀ id, e ≠ .job id .endFirst) →
        (s.after o more).harvester.Idles ((s.after o more).step o e).harvester) := by
  intro s hway hentered e
  refine ⟨?_, idles_step⟩
  intro begun hbegun hp
  let removing := (initial directory lookupFaults records source store).after o before
  let cancelling := (removing.step o (.scheduler (.erase tenant))).after o between
  have hs : s = cancelling.step o (.cancelPeriodic tenant) := by
    simp only [s, after_append]
    rfl
  obtain ⟨hbetween, hmore⟩ := List.forall_mem_append.mp hset
  have hsound : removing.Sound :=
    (sound_initial directory lookupFaults records source store).after _
  have herased : (removing.step o (.scheduler (.erase tenant))).Sound := hsound.step _
  have hcancelling : cancelling.Sound := herased.after _
  have hmissing : cancelling.scheduler.Missing tenant :=
    missing_after (Scheduler.missing_of_erase hremoved) herased hbetween
  obtain ⟨hheldsent, htaken⟩ := List.forall_mem_append.mp hway
  obtain ⟨hheld, hsent⟩ := List.forall_mem_append.mp hheldsent
  have hrest : s.AtRest tenant := by
    rw [hs] at hheld hsent htaken hentered ⊢
    exact ⟨⟨hmissing, hheld, hsent⟩, fun f hf ↦ htaken f (Option.mem_toList.mpr hf),
      Harvester.Hushed.of_cancelPeriodic hcancelling.harvester hentered⟩
  have hsounds : s.Sound := hs ▸ hcancelling.step _
  exact (hrest.after hsounds hmore).ne_of_begun (hsounds.after more) hbegun hp

section Removals

/-- What is harvested with: sources that have no records. -/
private def barren : Outfit Unit :=
  { settings := {}, lastCompleted := .january 2021, create := fun _ ↦ .ok ()
    fetch := fun _ _ _ ↦ (.records [], ()) }

/-- A service for one provider of a tenant with a daily trigger. -/
private def daily : ServiceState Unit :=
  initial ⟨[{ id := "p", tenant := "a", reportTypes := ["DR"], start := .january 2020 }]⟩ []
    { archive := .memory .empty } ()
    { archive := .memory ⟨[{ tenant := "a", interval := .daily, start := default }]⟩ }

/-- The trigger fires, and its firing is sent. -/
private def firing : List ServiceEvent :=
  [.scheduler .start, .scheduler (.arm 1 default 0), .scheduler (.fire 1), .scheduler (.send 1)]

/-- The loop takes a firing and starts a job for it, which finds its providers. -/
private def following : List ServiceEvent :=
  [.take, .follow, .job 0 .enter, .job 0 .announce, .job 0 .begin]

/-- A running job begins no provider once its trigger was removed. -/
theorem ne_of_begun_after_removal_running :
    let s := daily.after barren
      (firing ++ following ++ .scheduler (.erase "a") :: [] ++ [.cancelPeriodic "a"])
    (∃ j ∈ s.harvester.jobs, j.origin = .periodic ∧ j.stage.rank = 3) ∧
      ∀ e, (∀ begun ∈ (s.after barren []).begun barren e,
          begun.1.origin = .periodic → begun.1.key.tenant ≠ "a") ∧
        ((s.after barren []).begun barren e = [] → (∀ id, e ≠ .job id .endFirst) →
          (s.after barren []).harvester.Idles ((s.after barren []).step barren e).harvester) :=
  ⟨by decide +kernel,
    ne_of_begun_after_removal (firing ++ following) [] [] (by decide +kernel)
      (List.forall_mem_nil _) (by decide +kernel) (by decide +kernel)⟩

/-- A firing that was sent before its trigger was removed starts a job that begins a provider. -/
theorem begun_after_removal :
    ((daily.after barren firing).scheduler.erase "a").1 = .ok () ∧
      ∃ begun ∈ (daily.after barren
          (firing ++ .scheduler (.erase "a") :: .cancelPeriodic "a" :: following)).begun barren
            (.job 0 .beginNext),
        begun.1.origin = .periodic ∧ begun.1.key.tenant = "a" := by
  decide +kernel

end Removals

end ServiceState
end UsageReports
