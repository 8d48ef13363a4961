import UsageReports.Proofs.Job.Course

/-!
# Running jobs

What a running job plans, fetches and writes it does for a provider, and where it serves none it
changes neither records nor sources. Once it is cancelled it begins no provider, and wherever it is
it can go on to its result.
-/

namespace UsageReports

variable {σ : Type}

/-- The job whose step an event is. -/
def HarvesterEvent.job? : HarvesterEvent σ → Option Nat
  | .job id _ | .endAt id _ => some id
  | .accept _ _ _ | .cancel _ | .cancelPeriodic _ | .outside _ _ _ _ => none

namespace Harvester

/-- The provider that a job fetches at a place. -/
def fetching (h : Harvester σ) (id place : Nat) : List Provider :=
  match h.job? id with
  | some j =>
    match j.stage with
    | .running _ active _ => (active[place]?.map Fetching.provider).toList
    | _ => []
  | none => []

/-- The providers that a job plans, fetches or writes for with an event. -/
def serves (o : Outfit σ) (h : Harvester σ) (id : Nat) : HarvesterEvent σ → List Provider
  | .job id' .beginNext => if id' = id then (h.begins o id).map Prod.snd else []
  | .job id' .endFirst => if id' = id then h.fetching id 0 else []
  | .endAt id' place => if id' = id then h.fetching id place else []
  | _ => []

/-- The providers that a job plans, fetches or writes for with events, one after the other. -/
def servesAlong (o : Outfit σ) (h : Harvester σ) (id : Nat) :
    List (HarvesterEvent σ) → List Provider
  | [] => []
  | e :: rest => h.serves o id e ++ servesAlong o (h.step o e) id rest

variable {o : Outfit σ} {h : Harvester σ} {id : Nat}

/-! ### What a job does for providers -/

/-- What is fetched at no place does not come to its end. -/
theorem endAt_of_fetching_nil {place : Nat} (hnone : h.fetching id place = []) :
    h.endAt o id place = h := by
  unfold fetching at hnone
  unfold endAt
  split
  · next j hj =>
    rw [hj] at hnone
    dsimp only at hnone
    split
    · next hstage =>
      rw [hstage] at hnone
      dsimp only at hnone
      split
      · next hf =>
        rw [hf] at hnone
        contradiction
      · rfl
    · rfl
  · rfl

/-- A job that begins and ends no provider with a step changes neither records nor sources. -/
theorem idle_go {step : JobStep} (hbegun : h.begun o id step = [])
    (hended : step = .endFirst → h.fetching id 0 = []) :
    (h.go o id step).records = h.records ∧ (h.go o id step).source = h.source := by
  by_cases hend : step = .endFirst
  · rw [hend, go, endFirst_eq_endAt, endAt_of_fetching_nil (hended hend)]
    exact ⟨rfl, rfl⟩
  · have hidles := idles_go hbegun hend
    exact ⟨hidles.records, hidles.source⟩

/-- A job that serves no provider with an event changes neither records nor sources. -/
theorem idle_of_serves_nil {e : HarvesterEvent σ} (he : e.job? = some id)
    (hnone : h.serves o id e = []) :
    (h.step o e).records = h.records ∧ (h.step o e).source = h.source := by
  cases e with
  | job id' step =>
    obtain rfl : id' = id := Option.some.inj he
    rw [Harvester.step]
    cases step with
    | beginNext =>
      rw [serves, if_pos rfl, List.map_eq_nil_iff] at hnone
      exact idle_go hnone fun h ↦ by contradiction
    | endFirst =>
      rw [serves, if_pos rfl] at hnone
      exact idle_go rfl fun _ ↦ hnone
    | _ => exact idle_go rfl fun h ↦ by contradiction
  | endAt id' place =>
    obtain rfl : id' = id := Option.some.inj he
    rw [serves, if_pos rfl] at hnone
    rw [Harvester.step, endAt_of_fetching_nil hnone]
    exact ⟨rfl, rfl⟩
  | _ => contradiction

/-! ### Cancelled jobs -/

/-- Whether a job that is for all providers of a tenant was cancelled, as long as it is there. -/
structure Quiet (id : Nat) (h : Harvester σ) : Prop where
  id_lt : id < h.nextJob
  cancelled : ∀ j, h.job? id = some j →
    j.isCancelled = true ∧ j.provider = none ∧ 3 ≤ j.stage.rank

end Harvester

theorem JobStage.rank_of_result {stage : JobStage σ} {result : Except JobError Summary}
    (h : stage.result? = some result) : 4 ≤ stage.rank := by
  cases stage <;> simp [result?, rank] at h ⊢

/-- A job stays cancelled, and for all providers. -/
theorem Job.Proceeds.kept {o : Outfit σ} {j j' : Job σ} {begun : List Provider}
    (hp : j.Proceeds o begun (some j')) (hrank : 3 ≤ j.stage.rank) :
    j'.provider = j.provider ∧ (j.isCancelled = true → j'.isCancelled = true) ∧
      3 ≤ j'.stage.rank := by
  cases hp with
  | stay => exact ⟨rfl, fun h ↦ h, hrank⟩
  | cancel => exact ⟨rfl, fun _ ↦ rfl, hrank⟩
  | goOn _ hkept => exact ⟨rfl, fun h ↦ h, Nat.le_of_succ_le (JobStage.rank_of_result hkept)⟩
  | finish => exact ⟨rfl, fun h ↦ h, Nat.le_succ 3⟩
  | _ => exact ⟨rfl, fun h ↦ h, Nat.le_refl 3⟩

namespace Harvester

variable {o : Outfit σ} {h : Harvester σ} {id : Nat}

theorem Quiet.step (hq : h.Quiet id) (e : HarvesterEvent σ) : (h.step o e).Quiet id := by
  refine ⟨hq.id_lt.trans_le (h.nextJob_le_step e), ?_⟩
  intro j' hj'
  cases hj : h.job? id with
  | none =>
    rw [job?_step_of_none hj hq.id_lt e] at hj'
    contradiction
  | some j =>
    obtain ⟨hcancelled, hall, hrank⟩ := hq.cancelled j hj
    have hp := proceeds_step (o := o) hj hrank e
    rw [hj'] at hp
    obtain ⟨hprovider, hkept, hrank'⟩ := hp.kept hrank
    exact ⟨hkept hcancelled, hprovider.trans hall, hrank'⟩

/-- A cancelled job begins nothing. -/
theorem Quiet.starts_eq_nil (hq : h.Quiet id) (e : HarvesterEvent σ) : h.starts o id e = [] := by
  cases hj : h.job? id with
  | none => exact starts_of_none hj e
  | some j =>
    obtain ⟨hcancelled, hall, -⟩ := hq.cancelled j hj
    cases e with
    | job id' step =>
      rw [starts]
      split
      · cases step with
        | beginNext =>
          rw [begun, begins, hj]
          dsimp only
          split
          · rw [if_neg fun hgoes ↦ hgoes.2 ⟨hcancelled, hall⟩]
            rfl
          · rfl
        | _ => rfl
      · rfl
    | _ => rfl

theorem Quiet.startsAlong_eq_nil (hq : h.Quiet id) (events : List (HarvesterEvent σ)) :
    h.startsAlong o id events = [] := by
  induction events generalizing h with
  | nil => rfl
  | cons e rest ih => rw [startsAlong, hq.starts_eq_nil e, ih (hq.step e), List.append_nil]

/-! ### The end of a job -/

/-- There is room for a provider when none is fetched. -/
theorem room_pos (o : Outfit σ) : 0 < room o := Nat.le_max_left _ _

theorem length_starts_le {j : Job σ} {pending : List Provider} {active : List (Fetching σ)}
    {outcomes : List Outcome} (hj : h.job? id = some j)
    (hstage : j.stage = .running pending active outcomes) (hroom : active.length ≤ room o)
    (e : HarvesterEvent σ) : active.length + (h.starts o id e).length ≤ room o := by
  cases e with
  | job id' step =>
    rw [starts]
    split
    · cases step with
      | beginNext =>
        rw [begun, begins, hj]
        dsimp only
        rw [hstage]
        cases pending with
        | nil => exact hroom
        | cons p pending =>
          dsimp only
          split
          · next hgoes => exact hgoes.1
          · exact hroom
      | _ => exact hroom
    · exact hroom
  | _ => exact hroom

section Progress

variable {j : Job σ} {pending : List Provider} {active : List (Fetching σ)}
  {outcomes : List Outcome} (hj : h.job? id = some j)
include hj

theorem job?_put_self (stage : JobStage σ) :
    Keyed.get? Job.id id (Keyed.put Job.id { j with stage } h.jobs) = some { j with stage } := by
  obtain rfl := id_of_job? hj
  exact Keyed.get?_put_self Job.id { j with stage } h.jobs

/-- A job for all providers of a tenant begins with the active ones. -/
theorem job?_begin (hstage : j.stage = .started) (hall : j.provider = none)
    (hlookup : h.lookupFault? j.key.tenant = none) :
    (h.begin id).job? id =
      some { j with stage := .running (h.directory.active j.key.tenant) [] [] } := by
  unfold begin
  rw [hj]
  dsimp only
  split
  · split
    · next hone =>
      rw [hall] at hone
      contradiction
    · rw [hlookup]
      exact job?_put_self hj _
  · next hnot => exact absurd hstage hnot

/-- Where there is room, the next provider waits no more. -/
theorem exists_beginNext {p : Provider} (hstage : j.stage = .running (p :: pending) active outcomes)
    (hroom : active.length < room o) :
    ∃ j' active' outcomes', (h.beginNext o id).job? id = some j' ∧
      j'.stage = .running pending active' outcomes' ∧ active'.length ≤ active.length + 1 := by
  unfold beginNext
  rw [hj]
  dsimp only
  rw [hstage]
  dsimp only
  rw [if_neg (Nat.not_le.mpr hroom)]
  split
  · exact ⟨_, _, _, job?_put_self hj _, rfl, Nat.le_succ _⟩
  · split
    · exact ⟨_, _, _, job?_put_self hj _, rfl, Nat.le_succ _⟩
    · exact ⟨_, _, _, job?_put_self hj _, rfl, Nat.le_succ _⟩
    · exact ⟨_, _, _, job?_put_self hj _, rfl, Nat.le_of_eq List.length_append⟩

/-- The first provider that is fetched comes to its end. -/
theorem exists_endFirst {f : Fetching σ}
    (hstage : j.stage = .running pending (f :: active) outcomes) :
    ∃ j' outcomes', (h.endFirst o id).job? id = some j' ∧
      j'.stage = .running pending active outcomes' := by
  unfold endFirst
  rw [hj]
  dsimp only
  rw [hstage]
  exact ⟨_, _, job?_put_self hj _, rfl⟩

theorem exists_finish (hstage : j.stage = .running [] [] outcomes) :
    ∃ j' result, (h.finish id).job? id = some j' ∧ j'.stage = .ended result := by
  unfold finish
  rw [hj]
  dsimp only
  rw [hstage]
  exact ⟨_, _, job?_put_self hj _, rfl⟩

end Progress

/-- Some steps of a running job take it to its result, whatever its providers have come to. -/
theorem exists_result {j : Job σ} {pending : List Provider} {active : List (Fetching σ)}
    {outcomes : List Outcome} (hj : h.job? id = some j)
    (hstage : j.stage = .running pending active outcomes) :
    ∃ (steps : List JobStep) (j' : Job σ) (result : Except JobError Summary),
      (h.after o (steps.map (.job id))).job? id = some j' ∧ j'.stage = .ended result := by
  -- A provider that waits counts twice: it may be fetched before it is done with.
  induction hn : 2 * pending.length + active.length using Nat.strong_induction_on
    generalizing h j pending active outcomes with
  | _ n ih =>
    cases active with
    | cons f rest =>
      obtain ⟨j', outcomes', hj', hstage'⟩ := exists_endFirst (o := o) hj hstage
      have hlt : 2 * pending.length + rest.length < n := by
        rw [← hn, List.length_cons]
        omega
      obtain ⟨steps, hend⟩ := ih _ hlt hj' hstage' rfl
      exact ⟨.endFirst :: steps, hend⟩
    | nil =>
      cases pending with
      | nil =>
        obtain ⟨j', result, hend⟩ := exists_finish hj hstage
        exact ⟨[.finish], j', result, hend⟩
      | cons p rest =>
        obtain ⟨j', active', outcomes', hj', hstage', hle⟩ :=
          exists_beginNext (o := o) hj hstage (room_pos o)
        have hlt : 2 * rest.length + active'.length < n := by
          simp only [List.length_nil, List.length_cons] at hn hle
          omega
        obtain ⟨steps, hend⟩ := ih _ hlt hj' hstage' rfl
        exact ⟨.beginNext :: steps, hend⟩

end Harvester
end UsageReports
