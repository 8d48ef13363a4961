import UsageReports.Proofs.Job.Running

/-!
# Accounting for providers

A job for all providers of a tenant accounts for each of them once. Throughout its course the
providers are those that it has begun, those that it has put down as not started, and those that
wait; and what it has begun is done with or being fetched. So when nothing waits any more, its
summary has each provider in one of its lists.
-/

namespace UsageReports

variable {σ : Type}

namespace Outcome

/-- The providers that were started, by their outcomes. -/
def started (outcomes : List Outcome) : List String :=
  (outcomes.filter (·.result.isSome)).map Outcome.provider

/-- The providers that were not started, by their outcomes. -/
def notStarted (outcomes : List Outcome) : List String :=
  (outcomes.filter (·.result.isNone)).map Outcome.provider

@[simp] theorem started_concat_some (outcomes : List Outcome) (p : String)
    (result : Except JobError ProviderRun) :
    started (outcomes ++ [⟨p, some result⟩]) = started outcomes ++ [p] := by
  simp [started]

@[simp] theorem started_concat_none (outcomes : List Outcome) (p : String) :
    started (outcomes ++ [⟨p, none⟩]) = started outcomes := by
  simp [started]

@[simp] theorem notStarted_concat_some (outcomes : List Outcome) (p : String)
    (result : Except JobError ProviderRun) :
    notStarted (outcomes ++ [⟨p, some result⟩]) = notStarted outcomes := by
  simp [notStarted]

@[simp] theorem notStarted_concat_none (outcomes : List Outcome) (p : String) :
    notStarted (outcomes ++ [⟨p, none⟩]) = notStarted outcomes ++ [p] := by
  simp [notStarted]

/-- Whether each run is told under the provider that it came of. -/
def Named (outcomes : List Outcome) : Prop :=
  ∀ x ∈ outcomes, ∀ run, x.result = some (.ok run) → run.provider = x.provider

theorem named_concat {outcomes : List Outcome} (h : Named outcomes) {x : Outcome}
    (hx : ∀ run, x.result = some (.ok run) → run.provider = x.provider) :
    Named (outcomes ++ [x]) := by
  intro y hy
  rcases List.mem_append.mp hy with hold | hnew
  · exact h y hold
  · obtain rfl := List.mem_singleton.mp hnew
    exact hx

end Outcome

/-! ### Summaries -/

namespace Summary

/-- The providers that a summary tells were started. -/
def started (s : Summary) : List String := s.runs.map (·.provider) ++ s.failed.map Prod.fst

/-- A summary has each provider that was started as run or as failed. -/
theorem started_ofOutcomes (job : Nat) (key : JobKey) (cancelled : Bool) {outcomes : List Outcome}
    (h : Outcome.Named outcomes) :
    (ofOutcomes job key cancelled outcomes).started.Perm (Outcome.started outcomes) := by
  refine (((List.mergeSort_perm _ _).map _).append_right _).trans ?_
  induction outcomes with
  | nil => exact .rfl
  | cons x rest ih =>
    obtain ⟨p, result⟩ := x
    obtain ⟨hx, hrest⟩ := List.forall_mem_cons.mp h
    match result with
    | none => exact ih hrest
    | some (.error e) => exact List.perm_middle.trans ((ih hrest).cons p)
    | some (.ok run) =>
      have hname : run.provider = p := hx run rfl
      subst hname
      exact (ih hrest).cons run.provider

/-- A summary has each provider that was not started. -/
theorem notStarted_ofOutcomes (job : Nat) (key : JobKey) (cancelled : Bool)
    (outcomes : List Outcome) :
    (ofOutcomes job key cancelled outcomes).notStarted.Perm (Outcome.notStarted outcomes) := by
  refine (List.mergeSort_perm _ _).trans ?_
  induction outcomes with
  | nil => exact .rfl
  | cons x rest ih =>
    obtain ⟨p, result⟩ := x
    cases result with
    | none => exact ih.cons p
    | some result => exact ih

end Summary

/-! ### Accounts -/

/-- How a running job accounts for providers: which of them were begun, which of those are done
with, and which were put down as not started. -/
structure Accounted (o : Outfit σ) (providers begun done skipped : List Provider) (cancelled : Bool)
    (pending : List Provider) (active : List (Fetching σ)) (outcomes : List Outcome) : Prop where
  all : (begun ++ skipped ++ pending).Perm providers
  begun : (done ++ active.map Fetching.provider).Perm begun
  started : Outcome.started outcomes = done.map Provider.id
  notStarted : Outcome.notStarted outcomes = skipped.map Provider.id
  named : Outcome.Named outcomes
  cancelled : skipped ≠ [] → cancelled = true
  room : active.length ≤ Harvester.room o

/-- Whether a summary accounts for providers, where some were begun and some were not. -/
structure Summary.AccountsFor (s : Summary) (providers begun left : List Provider) : Prop where
  all : (begun ++ left).Perm providers
  started : s.started.Perm (begun.map Provider.id)
  notStarted : s.notStarted.Perm (left.map Provider.id)
  cancelled : left ≠ [] → s.cancelled = true

/-- Whether a job for all providers of a tenant accounts for them, running or with its result. -/
inductive Job.Accounts (o : Outfit σ) (providers begun : List Provider) (j : Job σ) : Prop
  | running {pending : List Provider} {active : List (Fetching σ)} {outcomes : List Outcome}
      (hstage : j.stage = .running pending active outcomes) {done skipped : List Provider}
      (h : Accounted o providers begun done skipped j.isCancelled pending active outcomes) :
      j.Accounts o providers begun
  | concluded {s : Summary} (hresult : j.stage.result? = some (.ok s)) {left : List Provider}
      (h : s.AccountsFor providers begun left) (hcancelled : left ≠ [] → j.isCancelled = true) :
      j.Accounts o providers begun

namespace Accounted

variable {o : Outfit σ} {providers begun done skipped pending : List Provider} {cancelled : Bool}
  {active : List (Fetching σ)} {outcomes : List Outcome} {p : Provider}

/-- At first every provider waits. -/
theorem start (o : Outfit σ) (providers : List Provider) (cancelled : Bool) :
    Accounted o providers [] [] [] cancelled providers [] [] where
  all := .rfl
  begun := .rfl
  started := rfl
  notStarted := rfl
  named := fun _ h ↦ absurd h List.not_mem_nil
  cancelled := fun h ↦ absurd rfl h
  room := Nat.zero_le _

theorem skip (h : Accounted o providers begun done skipped cancelled (p :: pending) active outcomes)
    (hcancelled : cancelled = true) :
    Accounted o providers begun done (skipped ++ [p]) cancelled pending active
      (outcomes ++ [⟨p.id, none⟩]) where
  all := by simpa only [List.append_assoc, List.singleton_append] using h.all
  begun := h.begun
  started := by rw [Outcome.started_concat_none, h.started]
  notStarted := by rw [Outcome.notStarted_concat_none, h.notStarted, List.map_append]; rfl
  named := Outcome.named_concat h.named fun _ hrun ↦ by contradiction
  cancelled := fun _ ↦ hcancelled
  room := h.room

/-- A provider that is begun no longer waits. -/
theorem all_begin (h : (begun ++ skipped ++ p :: pending).Perm providers) :
    (begun ++ [p] ++ skipped ++ pending).Perm providers := by
  have hswap : (p :: (skipped ++ pending)).Perm (skipped ++ p :: pending) := List.perm_middle.symm
  refine List.Perm.trans ?_ h
  rw [List.append_assoc, List.append_assoc, List.append_assoc]
  exact hswap.append_left begun

theorem settle
    (h : Accounted o providers begun done skipped cancelled (p :: pending) active outcomes)
    {result : Except JobError ProviderRun}
    (hnamed : ∀ run, result = .ok run → run.provider = p.id) :
    Accounted o providers (begun ++ [p]) (done ++ [p]) skipped cancelled pending active
      (outcomes ++ [⟨p.id, some result⟩]) where
  all := all_begin h.all
  begun := by
    rw [List.append_assoc]
    exact (List.perm_append_comm.append_left done).trans
      ((List.append_assoc _ _ _).symm ▸ h.begun.append_right [p])
  started := by rw [Outcome.started_concat_some, h.started, List.map_append]; rfl
  notStarted := by rw [Outcome.notStarted_concat_some, h.notStarted]
  named := Outcome.named_concat h.named fun run hrun ↦ hnamed run (Option.some.inj hrun)
  cancelled := h.cancelled
  room := h.room

theorem fetch {f : Fetching σ}
    (h : Accounted o providers begun done skipped cancelled (f.provider :: pending) active outcomes)
    (hroom : active.length < Harvester.room o) :
    Accounted o providers (begun ++ [f.provider]) done skipped cancelled pending (active ++ [f])
      outcomes where
  all := all_begin h.all
  begun := by
    rw [List.map_append, ← List.append_assoc]
    exact h.begun.append_right [f.provider]
  started := h.started
  notStarted := h.notStarted
  named := h.named
  cancelled := h.cancelled
  room := by
    rw [List.length_append]
    exact hroom

theorem conclude (h : Accounted o providers begun done skipped cancelled pending active outcomes)
    {place : Nat} {f : Fetching σ} (hf : active[place]? = some f) {run : ProviderRun}
    (hnamed : run.provider = f.provider.id) :
    Accounted o providers begun (done ++ [f.provider]) skipped cancelled pending
      (active.eraseIdx place) (outcomes ++ [⟨run.provider, some (.ok run)⟩]) where
  all := h.all
  begun := by
    obtain ⟨hi, rfl⟩ := List.getElem?_eq_some_iff.mp hf
    rw [List.append_assoc]
    exact (((List.getElem_cons_eraseIdx_perm hi).map Fetching.provider).append_left done).trans
      h.begun
  started := by rw [Outcome.started_concat_some, h.started, List.map_append, hnamed]; rfl
  notStarted := by rw [Outcome.notStarted_concat_some, h.notStarted]
  named := by
    refine Outcome.named_concat h.named fun run' hrun ↦ ?_
    rw [Except.ok.inj (Option.some.inj hrun)]
  cancelled := h.cancelled
  room := (List.eraseIdx_sublist active place).length_le.trans h.room

theorem cancel (h : Accounted o providers begun done skipped cancelled pending active outcomes) :
    Accounted o providers begun done skipped true pending active outcomes :=
  { h with cancelled := fun _ ↦ rfl }

/-- When nothing waits any more, the summary accounts for all providers. -/
theorem accountsFor (h : Accounted o providers begun done skipped cancelled [] [] outcomes)
    (job : Nat) (key : JobKey) :
    (Summary.ofOutcomes job key cancelled outcomes).AccountsFor providers begun skipped where
  all := by simpa only [List.append_nil] using h.all
  started := by
    refine (Summary.started_ofOutcomes job key cancelled h.named).trans ?_
    rw [h.started, ← List.append_nil done]
    exact h.begun.map Provider.id
  notStarted := by
    refine (Summary.notStarted_ofOutcomes job key cancelled outcomes).trans ?_
    rw [h.notStarted]
  cancelled := h.cancelled

end Accounted

/-! ### Courses -/

/-- The result of a job for all providers is a summary of its outcomes. -/
theorem Job.result_of_whole {j : Job σ} (hall : j.provider = none) (outcomes : List Outcome) :
    j.result outcomes = .ok (.ofOutcomes j.id j.key j.isCancelled outcomes) := by
  unfold Job.result
  rw [hall]

namespace Job.Accounts

variable {o : Outfit σ} {providers begun more : List Provider} {j : Job σ}

theorem rank_le (h : j.Accounts o providers begun) : 3 ≤ j.stage.rank := by
  cases h with
  | running hstage _ =>
    rw [hstage]
    exact Nat.le_refl 3
  | concluded hresult _ _ => exact Nat.le_of_succ_le (JobStage.rank_of_result hresult)

theorem accounted (h : j.Accounts o providers begun) {pending : List Provider}
    {active : List (Fetching σ)} {outcomes : List Outcome}
    (hstage : j.stage = .running pending active outcomes) :
    ∃ done skipped,
      Accounted o providers begun done skipped j.isCancelled pending active outcomes := by
  cases h with
  | running hstage' h =>
    obtain ⟨rfl, rfl, rfl⟩ := JobStage.running.inj (hstage.symm.trans hstage')
    exact ⟨_, _, h⟩
  | concluded hresult _ _ =>
    rw [hstage] at hresult
    contradiction

theorem accountsFor (h : j.Accounts o providers begun) {result : Except JobError Summary}
    (hresult : j.stage.result? = some result) :
    ∃ s left, result = .ok s ∧ s.AccountsFor providers begun left ∧
      (left ≠ [] → j.isCancelled = true) := by
  cases h with
  | running hstage _ =>
    rw [hstage] at hresult
    contradiction
  | concluded hresult' h hcancelled =>
    exact ⟨_, _, Option.some.inj (hresult.symm.trans hresult'), h, hcancelled⟩

/-- However a job proceeds, it accounts for the same providers. -/
theorem proceeds (h : j.Accounts o providers begun) (hall : j.provider = none)
    {next : Option (Job σ)} (hp : j.Proceeds o more next) :
    ∀ j' ∈ next, j'.provider = none ∧ j'.Accounts o providers (begun ++ more) := by
  intro j' hj'
  cases hp with
  | stay =>
    obtain rfl := Option.mem_some_iff.mp hj'
    rw [List.append_nil]
    exact ⟨hall, h⟩
  | cancel =>
    obtain rfl := Option.mem_some_iff.mp hj'
    rw [List.append_nil]
    cases h with
    | running hstage h => exact ⟨hall, .running hstage h.cancel⟩
    | concluded hresult h _ => exact ⟨hall, .concluded hresult h fun _ ↦ rfl⟩
  | skip hstage hcancelled =>
    obtain rfl := Option.mem_some_iff.mp hj'
    obtain ⟨done, skipped, h⟩ := h.accounted hstage
    rw [List.append_nil]
    exact ⟨hall, .running rfl (h.skip hcancelled)⟩
  | settle hstage hroom result hnamed =>
    obtain rfl := Option.mem_some_iff.mp hj'
    obtain ⟨done, skipped, h⟩ := h.accounted hstage
    exact ⟨hall, .running rfl (h.settle hnamed)⟩
  | fetch hstage hroom =>
    obtain rfl := Option.mem_some_iff.mp hj'
    obtain ⟨done, skipped, h⟩ := h.accounted hstage
    exact ⟨hall, .running rfl (h.fetch hroom)⟩
  | done hstage hf run hnamed =>
    obtain rfl := Option.mem_some_iff.mp hj'
    obtain ⟨done, skipped, h⟩ := h.accounted hstage
    rw [List.append_nil]
    exact ⟨hall, .running rfl (h.conclude hf hnamed)⟩
  | finish hstage =>
    obtain rfl := Option.mem_some_iff.mp hj'
    obtain ⟨done, skipped, h⟩ := h.accounted hstage
    rw [List.append_nil]
    refine ⟨hall, .concluded ?_ (h.accountsFor j.id j.key) h.cancelled⟩
    rw [Job.result_of_whole hall, JobStage.result?]
  | goOn hresult hkept =>
    obtain rfl := Option.mem_some_iff.mp hj'
    obtain ⟨s, left, rfl, h, hcancelled⟩ := h.accountsFor hresult
    rw [List.append_nil]
    exact ⟨hall, .concluded hkept h hcancelled⟩
  | leave hresult => contradiction

end Job.Accounts

namespace Harvester

variable {o : Outfit σ} {h : Harvester σ} {id : Nat} {providers begun : List Provider}

/-- Whether a job with a given number accounts for providers, as long as it is there. -/
structure Tracks (o : Outfit σ) (providers begun : List Provider) (id : Nat) (h : Harvester σ) :
    Prop where
  id_lt : id < h.nextJob
  accounts : ∀ j, h.job? id = some j → j.provider = none ∧ j.Accounts o providers begun

theorem Tracks.step (ht : h.Tracks o providers begun id) (e : HarvesterEvent σ) :
    (h.step o e).Tracks o providers (begun ++ h.starts o id e) id := by
  refine ⟨ht.id_lt.trans_le (h.nextJob_le_step e), ?_⟩
  cases hj : h.job? id with
  | none =>
    intro j hj'
    rw [job?_step_of_none hj ht.id_lt e] at hj'
    contradiction
  | some j =>
    obtain ⟨hall, haccounts⟩ := ht.accounts j hj
    exact haccounts.proceeds hall (proceeds_step hj haccounts.rank_le e)

theorem Tracks.after (ht : h.Tracks o providers begun id) (events : List (HarvesterEvent σ)) :
    (h.after o events).Tracks o providers (begun ++ h.startsAlong o id events) id := by
  induction events generalizing h begun with
  | nil =>
    rw [startsAlong, List.append_nil]
    exact ht
  | cons e rest ih =>
    rw [startsAlong, ← List.append_assoc]
    exact ih (ht.step e)

/-- What a job does for a provider, it does for one that it has begun. -/
theorem Tracks.mem_of_serves (ht : h.Tracks o providers begun id) {e : HarvesterEvent σ}
    {p : Provider} (hp : p ∈ h.serves o id e) : p ∈ begun ++ h.starts o id e := by
  have hfetching : ∀ place, p ∈ h.fetching id place → p ∈ begun := by
    intro place hp
    unfold fetching at hp
    split at hp
    · next j hj =>
      split at hp
      · next hstage =>
        obtain ⟨done, skipped, h⟩ := (ht.accounts j hj).2.accounted hstage
        obtain ⟨f, hf, rfl⟩ := Option.map_eq_some_iff.mp (Option.mem_toList.mp hp)
        have hmem := List.mem_map_of_mem (f := Fetching.provider) (List.mem_of_getElem? hf)
        exact h.begun.subset (List.mem_append_right done hmem)
      · exact absurd hp List.not_mem_nil
    · exact absurd hp List.not_mem_nil
  unfold serves at hp
  split at hp
  · exact List.mem_append_right _ hp
  · split at hp
    · exact List.mem_append_left _ (hfetching 0 hp)
    · exact absurd hp List.not_mem_nil
  · split at hp
    · exact List.mem_append_left _ (hfetching _ hp)
    · exact absurd hp List.not_mem_nil
  · exact absurd hp List.not_mem_nil

theorem Tracks.mem_of_servesAlong (ht : h.Tracks o providers begun id)
    {events : List (HarvesterEvent σ)} {p : Provider} (hp : p ∈ h.servesAlong o id events) :
    p ∈ begun ++ h.startsAlong o id events := by
  induction events generalizing h begun with
  | nil => exact absurd hp List.not_mem_nil
  | cons e rest ih =>
    rw [startsAlong, ← List.append_assoc]
    rcases List.mem_append.mp hp with hnow | hlater
    · exact List.mem_append_left _ (ht.mem_of_serves hnow)
    · exact ih (ht.step e) hlater

/-- How a job accounts for providers along some events. It has at most as many of them in progress
as it may, and those it has begun are done with or in progress; from wherever it is some steps take
it to its result. The result is a summary that has each provider once: it has those that were begun
as run or as failed, whatever became of others, and the others as not started, of which there are
some only where the job was cancelled. A cancelled job begins nothing. What a job plans, fetches or
writes it does for a provider that it has begun. -/
structure AccountsForAll (o : Outfit σ) (h : Harvester σ) (id : Nat) (providers : List Provider)
    (events : List (HarvesterEvent σ)) : Prop where
  running : ∀ j pending active outcomes, (h.after o events).job? id = some j →
    j.stage = .running pending active outcomes →
      (Outcome.started outcomes ++ active.map (·.provider.id)).Perm
        ((h.startsAlong o id events).map Provider.id) ∧
      (∀ e, active.length + ((h.after o events).starts o id e).length ≤
        max 1 o.settings.maxConcurrentProviders) ∧
      ∃ (steps : List JobStep) (j' : Job σ) (s : Summary),
        ((h.after o events).after o (steps.map (.job id))).job? id = some j' ∧
          j'.stage = .ended (.ok s)
  concluded : ∀ j result, (h.after o events).job? id = some j → j.stage.result? = some result →
    ∃ s left, result = .ok s ∧ (h.startsAlong o id events ++ left).Perm providers ∧
      (s.runs.map (·.provider) ++ s.failed.map Prod.fst ++ s.notStarted).Perm
        (providers.map Provider.id) ∧
      (s.runs.map (·.provider) ++ s.failed.map Prod.fst).Perm
        ((h.startsAlong o id events).map Provider.id) ∧
      s.notStarted.Perm (left.map Provider.id) ∧
      (left ≠ [] → s.cancelled = true ∧ j.isCancelled = true) ∧
      (providers.Nodup → ∀ p ∈ left, p ∉ h.servesAlong o id events)
  cancelled : ∀ j, (h.after o events).job? id = some j → j.isCancelled = true →
    ∀ more, (h.after o events).startsAlong o id more = []
  served : ∀ p ∈ h.servesAlong o id events, p ∈ h.startsAlong o id events
  idle : ∀ e : HarvesterEvent σ, e.job? = some id → (h.after o events).serves o id e = [] →
    ((h.after o events).step o e).records = (h.after o events).records ∧
      ((h.after o events).step o e).source = (h.after o events).source

/-- A job that has begun none of its providers yet accounts for all of them. -/
theorem Tracks.accountsForAll (hstart : h.Tracks o providers [] id)
    (events : List (HarvesterEvent σ)) : h.AccountsForAll o id providers events := by
  have ht : (h.after o events).Tracks o providers (h.startsAlong o id events) id :=
    hstart.after events
  have hserved : ∀ p ∈ h.servesAlong o id events, p ∈ h.startsAlong o id events :=
    fun p hp ↦ hstart.mem_of_servesAlong hp
  refine ⟨?_, ?_, ?_, hserved, fun e ↦ idle_of_serves_nil⟩
  · intro j pending active outcomes hj hstage
    obtain ⟨done, skipped, hacc⟩ := (ht.accounts j hj).2.accounted hstage
    refine ⟨?_, length_starts_le hj hstage hacc.room, ?_⟩
    · rw [hacc.started]
      simpa only [List.map_append, List.map_map, Function.comp_def] using hacc.begun.map Provider.id
    · obtain ⟨steps, j', result, hj', hended⟩ := exists_result (o := o) hj hstage
      have ht' := (ht.after (steps.map (.job id))).accounts j' hj'
      obtain ⟨s, left, rfl, -⟩ := ht'.2.accountsFor (by rw [hended, JobStage.result?])
      exact ⟨steps, j', s, hj', hended⟩
  · intro j result hj hresult
    obtain ⟨s, left, rfl, hs, hcancelled⟩ := (ht.accounts j hj).2.accountsFor hresult
    refine ⟨s, left, rfl, hs.all, ?_, hs.started, hs.notStarted, ?_, ?_⟩
    · refine (hs.started.append hs.notStarted).trans ?_
      rw [← List.map_append]
      exact hs.all.map Provider.id
    · intro hleft
      exact ⟨hs.cancelled hleft, hcancelled hleft⟩
    · intro hdistinct p hp hserves
      have hnodup := hs.all.nodup_iff.mpr hdistinct
      exact (List.nodup_append.mp hnodup).2.2 p (hserved p hserves) p hp rfl
  · intro j hj hcancelled more
    obtain ⟨hall, haccounts⟩ := ht.accounts j hj
    apply Quiet.startsAlong_eq_nil
    refine ⟨ht.id_lt, fun i hi ↦ ?_⟩
    obtain rfl := Option.some.inj (hj.symm.trans hi)
    exact ⟨hcancelled, hall, haccounts.rank_le⟩

/-- An event with which a job begins and serves nothing may come before. -/
theorem AccountsForAll.cons {e : HarvesterEvent σ} {events : List (HarvesterEvent σ)}
    (hstarts : h.starts o id e = []) (hserves : h.serves o id e = [])
    (haccounts : (h.step o e).AccountsForAll o id providers events) :
    h.AccountsForAll o id providers (e :: events) := by
  have hstartsAlong : h.startsAlong o id (e :: events) = (h.step o e).startsAlong o id events := by
    rw [startsAlong, hstarts, List.nil_append]
  have hservesAlong : h.servesAlong o id (e :: events) = (h.step o e).servesAlong o id events := by
    rw [servesAlong, hserves, List.nil_append]
  obtain ⟨hrunning, hconcluded, hcancelled, hserved, hidle⟩ := haccounts
  rw [← hstartsAlong] at hrunning hconcluded hserved
  rw [← hservesAlong] at hconcluded hserved
  exact ⟨hrunning, hconcluded, hcancelled, hserved, hidle⟩

section Cancelling

/-- A provider of the tenant `t`. -/
private def provider (id : String) : Provider :=
  { id, tenant := "t", reportTypes := ["DR"], start := .january 2020 }

/-- What is harvested with: the provider `b` has no source, the sources of others no records. -/
private def withoutB : Outfit Unit :=
  { settings := {}, lastCompleted := .january 2020
    create := fun p ↦ if p.id = "b" then .error (.unknownService "") else .ok ()
    fetch := fun _ _ _ ↦ (.records [], ()) }

/-- A started job of a tenant with three active providers and one that is not. -/
private def forThree : Harvester Unit :=
  { directory := ⟨[provider "c", provider "b", { provider "d" with status := .inactive },
      provider "a", { provider "e" with tenant := "u" }]⟩
    records := { archive := .memory .empty }, source := (), nextJob := 1
    registry := ⟨[⟨0, ⟨"t", none⟩⟩]⟩
    jobs :=
      [{ id := 0, key := ⟨"t", none⟩, origin := .manual, provider := none, stage := .started }] }

private theorem active_forThree :
    forThree.directory.active "t" = [provider "a", provider "b", provider "c"] := by
  simp [Directory.active, sortedBy, lastOfEach, forThree, provider, Provider.isActive,
    List.mergeSort, List.MergeSort.Internal.splitInTwo]

/-- The job with its three providers, of which it has begun none. -/
private def begunForThree : Harvester Unit :=
  forThree.putJob
    { id := 0, key := ⟨"t", none⟩, origin := .manual, provider := none
      stage := .running [provider "a", provider "b", provider "c"] [] [] }

private theorem step_begin_forThree :
    forThree.step withoutB (.job 0 .begin) = begunForThree := by
  rw [begunForThree, ← active_forThree]
  rfl

/-- The first provider is being fetched and the second has failed when the job is cancelled. -/
private def cancelling : List (HarvesterEvent Unit) :=
  [.job 0 .beginNext, .job 0 .beginNext, .cancel 0, .job 0 .beginNext, .endAt 0 0, .job 0 .finish]

/-- One of them was run, one has failed, and one was not started. -/
example :
    let h := begunForThree.after withoutB cancelling
    ((h.job? 0).bind (·.stage.result?)).bind (fun result ↦ result.toOption.map fun s ↦
      (s.runs.map (·.provider), s.failed.map Prod.fst, s.notStarted)) =
        some (["a"], ["b"], ["c"]) := by
  decide +kernel

end Cancelling

end Harvester
end UsageReports
