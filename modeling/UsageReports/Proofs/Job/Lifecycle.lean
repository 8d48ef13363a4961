import UsageReports.Job.Harvester
import UsageReports.Proofs.Data.DistinctKeys
import UsageReports.Proofs.Job.Admission

/-!
# The lives of jobs

Jobs go through their stages step by step, the steps of different jobs in any order. Throughout, the
keys that are held are those of the jobs, and a periodic job that may begin providers is entered as
that of its tenant unless it was cancelled. A tenant whose periodic jobs are all cancelled or at
their end begins no more providers.
-/

namespace UsageReports

variable {σ : Type}

theorem Origin.eq_or_eq (origin : Origin) : origin = .periodic ∨ origin = .manual := by
  cases origin
  · exact Or.inr rfl
  · exact Or.inl rfl

/-- How far a job has come. -/
def JobStage.rank : JobStage σ → Nat
  | .keyed => 0
  | .entered => 1
  | .started => 2
  | .running _ _ _ => 3
  | .ended _ => 4
  | .forgotten _ => 5
  | .recorded _ => 6

namespace Job

/-- Whether a job is at its end, so that it begins no more providers. -/
def IsOver (j : Job σ) : Prop := 4 ≤ j.stage.rank

/-- The entry of a job in the registry. -/
def holding (j : Job σ) : Holding := ⟨j.id, j.key⟩

end Job

/-- The steps of a job. -/
inductive JobStep where
  | enter
  | announce
  | begin
  | beginNext
  | endFirst
  | finish
  | forget
  | recordEnd
  | leave
deriving DecidableEq

namespace Harvester

/-- Take a step of a job. -/
def go (o : Outfit σ) (h : Harvester σ) (id : Nat) : JobStep → Harvester σ
  | .enter => h.enter id
  | .announce => h.announce id
  | .begin => h.begin id
  | .beginNext => h.beginNext o id
  | .endFirst => h.endFirst o id
  | .finish => h.finish id
  | .forget => h.forget id
  | .recordEnd => h.recordEnd id
  | .leave => h.leave id

/-- The provider that a job begins next: one, if there is room for it and the job, where it is for
all providers of a tenant, is not cancelled. -/
def begins (o : Outfit σ) (h : Harvester σ) (id : Nat) : List (Job σ × Provider) :=
  match h.job? id with
  | some j =>
    match j.stage with
    | .running (p :: _) active _ =>
      if active.length < room o ∧ ¬ (j.isCancelled = true ∧ j.provider = none) then [(j, p)]
      else []
    | _ => []
  | none => []

/-- The providers that a job begins with a step. -/
def begun (o : Outfit σ) (h : Harvester σ) (id : Nat) : JobStep → List (Job σ × Provider)
  | .beginNext => h.begins o id
  | _ => []

/-- A job that begins no provider stays as it is, or puts one down as not started. -/
theorem beginNext_of_begins_nil {o : Outfit σ} {h : Harvester σ} {id : Nat}
    (hnone : h.begins o id = []) :
    h.beginNext o id = h ∨ ∃ j p pending active outcomes,
      h.job? id = some j ∧ j.stage = .running (p :: pending) active outcomes ∧
        h.beginNext o id =
          h.putJob { j with stage := .running pending active (outcomes ++ [⟨p.id, none⟩]) } := by
  unfold begins at hnone
  unfold beginNext
  split
  · next j hj =>
    rw [hj] at hnone
    split
    · next p pending active outcomes hstage =>
      simp only [hstage, ite_eq_right_iff] at hnone
      split
      · exact Or.inl rfl
      · next hroom =>
        have hcancelled : (j.isCancelled && j.provider.isNone) = true := by
          by_contra hgoes
          rw [Bool.and_eq_true, Option.isNone_iff_eq_none] at hgoes
          exact List.cons_ne_nil _ _ (hnone ⟨Nat.not_le.mp hroom, hgoes⟩)
        rw [if_pos hcancelled]
        exact Or.inr ⟨j, p, pending, active, outcomes, hj, hstage, rfl⟩
    · exact Or.inl rfl
  · exact Or.inl rfl

theorem id_of_job? {h : Harvester σ} {id : Nat} {j : Job σ} (hj : h.job? id = some j) : j.id = id :=
  Keyed.key_of_get? hj

/-- What a step of a job does to a harvester, stage by stage. -/
inductive Goes (h : Harvester σ) : Harvester σ → Prop
  | stay : Goes h h
  | enter {j : Job σ} {periodic : List PeriodicJob} (hj : h.job? j.id = some j)
    (hstage : j.stage = .keyed)
    (hperiodic : j.origin = .periodic →
      periodic = Keyed.put PeriodicJob.tenant ⟨j.key.tenant, j.id⟩ h.periodic)
    (hmanual : j.origin = .manual → periodic = h.periodic) :
    Goes h { h with periodic, jobs := Keyed.put Job.id { j with stage := .entered } h.jobs }
  | announce {j : Job σ} (hj : h.job? j.id = some j) (hstage : j.stage = .entered) :
    Goes h { h with
      history := h.history ++ [⟨j.id, j.key, j.origin, .started⟩]
      jobs := Keyed.put Job.id { j with stage := .started } h.jobs }
  /-- A started job goes on, and at last to its result. -/
  | run {j : Job σ} (stage : JobStage σ) (hj : h.job? j.id = some j)
    (hfrom : j.stage.rank = 2 ∨ j.stage.rank = 3) (hto : stage.rank = 3 ∨ stage.rank = 4)
    (records : RecordStore) (source : σ) :
    Goes h { h with records, source, jobs := Keyed.put Job.id { j with stage } h.jobs }
  | breakDown {j : Job σ} (hj : h.job? j.id = some j)
    (hbreaks : h.lookupFault? j.key.tenant = some .breaking) (result : Except JobError Summary) :
    Goes h (h.release j result)
  | forget {j : Job σ} {periodic : List PeriodicJob} {result : Except JobError Summary}
    (hj : h.job? j.id = some j) (hstage : j.stage = .ended result)
    (hperiodic : j.origin = .periodic → periodic = h.periodic.filter (· ≠ ⟨j.key.tenant, j.id⟩))
    (hmanual : j.origin = .manual → periodic = h.periodic) :
    Goes h { h with
      periodic, jobs := Keyed.put Job.id { j with stage := .forgotten result } h.jobs }
  | recordEnd {j : Job σ} {result : Except JobError Summary} (hj : h.job? j.id = some j)
    (hstage : j.stage = .forgotten result) :
    Goes h { h with
      history := h.history ++ [⟨j.id, j.key, j.origin, .ofResult result⟩]
      jobs := Keyed.put Job.id { j with stage := .recorded result } h.jobs }
  | leave {j : Job σ} {result : Except JobError Summary} (hj : h.job? j.id = some j)
    (hstage : j.stage = .recorded result) : Goes h (h.release j result)

theorem goes_enter (h : Harvester σ) (id : Nat) : h.Goes (h.enter id) := by
  unfold enter
  split
  · next j hj =>
    obtain rfl := id_of_job? hj
    split
    · next hstage =>
      split
      · next horigin =>
        exact .enter hj hstage (fun _ ↦ rfl) fun hm ↦ by rw [horigin] at hm; contradiction
      · next horigin =>
        exact .enter hj hstage (fun hp ↦ by rw [horigin] at hp; contradiction) fun _ ↦ rfl
    · exact .stay
  · exact .stay

theorem goes_announce (h : Harvester σ) (id : Nat) : h.Goes (h.announce id) := by
  unfold announce
  split
  · next j hj =>
    obtain rfl := id_of_job? hj
    split
    · next hstage => exact .announce hj hstage
    · exact .stay
  · exact .stay

theorem goes_begin (h : Harvester σ) (id : Nat) : h.Goes (h.begin id) := by
  unfold begin
  split
  · next j hj =>
    obtain rfl := id_of_job? hj
    split
    · next hstage =>
      have hfrom : j.stage.rank = 2 ∨ j.stage.rank = 3 := by simp [hstage, JobStage.rank]
      split
      · exact .run (.running _ [] []) hj hfrom (Or.inl rfl) _ _
      · split
        · exact .run (.ended _) hj hfrom (Or.inr rfl) _ _
        · next hbreaks => exact .breakDown hj hbreaks _
        · exact .run (.running _ [] []) hj hfrom (Or.inl rfl) _ _
    · exact .stay
  · exact .stay

theorem goes_beginNext (o : Outfit σ) (h : Harvester σ) (id : Nat) : h.Goes (h.beginNext o id) := by
  unfold beginNext
  split
  · next j hj =>
    obtain rfl := id_of_job? hj
    split
    · next hstage =>
      have hfrom : j.stage.rank = 2 ∨ j.stage.rank = 3 := by simp [hstage, JobStage.rank]
      split
      · exact .stay
      · split
        · exact .run (.running _ _ _) hj hfrom (Or.inl rfl) _ _
        · split <;> exact .run (.running _ _ _) hj hfrom (Or.inl rfl) _ _
    · exact .stay
  · exact .stay

theorem goes_endFirst (o : Outfit σ) (h : Harvester σ) (id : Nat) : h.Goes (h.endFirst o id) := by
  unfold endFirst
  split
  · next j hj =>
    obtain rfl := id_of_job? hj
    split
    · next hstage =>
      have hfrom : j.stage.rank = 2 ∨ j.stage.rank = 3 := by simp [hstage, JobStage.rank]
      exact .run (.running _ _ _) hj hfrom (Or.inl rfl) _ _
    · exact .stay
  · exact .stay

theorem goes_finish (h : Harvester σ) (id : Nat) : h.Goes (h.finish id) := by
  unfold finish
  split
  · next j hj =>
    obtain rfl := id_of_job? hj
    split
    · next hstage =>
      have hfrom : j.stage.rank = 2 ∨ j.stage.rank = 3 := by simp [hstage, JobStage.rank]
      exact .run (.ended _) hj hfrom (Or.inr rfl) _ _
    · exact .stay
  · exact .stay

theorem goes_forget (h : Harvester σ) (id : Nat) : h.Goes (h.forget id) := by
  unfold forget
  split
  · next j hj =>
    obtain rfl := id_of_job? hj
    split
    · next hstage =>
      dsimp only
      split
      · next horigin =>
        exact .forget hj hstage (fun _ ↦ rfl) fun hm ↦ by rw [horigin] at hm; contradiction
      · next horigin => exact .forget hj hstage (fun hp ↦ absurd hp horigin) fun _ ↦ rfl
    · exact .stay
  · exact .stay

theorem goes_recordEnd (h : Harvester σ) (id : Nat) : h.Goes (h.recordEnd id) := by
  unfold recordEnd
  split
  · next j hj =>
    obtain rfl := id_of_job? hj
    split
    · next hstage => exact .recordEnd hj hstage
    · exact .stay
  · exact .stay

theorem goes_leave (h : Harvester σ) (id : Nat) : h.Goes (h.leave id) := by
  unfold leave
  split
  · next j hj =>
    obtain rfl := id_of_job? hj
    split
    · next hstage => exact .leave hj hstage
    · exact .stay
  · exact .stay

theorem goes_go (o : Outfit σ) (h : Harvester σ) (id : Nat) (step : JobStep) :
    h.Goes (h.go o id step) := by
  cases step with
  | enter => exact goes_enter h id
  | announce => exact goes_announce h id
  | begin => exact goes_begin h id
  | beginNext => exact goes_beginNext o h id
  | endFirst => exact goes_endFirst o h id
  | finish => exact goes_finish h id
  | forget => exact goes_forget h id
  | recordEnd => exact goes_recordEnd h id
  | leave => exact goes_leave h id

/-- What a step of a job may do to the jobs that are there and to the periodic ones. A job goes on;
it enters as the periodic job of its tenant if it is one, and is forgotten as that when it has
ended; and it releases its key. -/
inductive Moves (h : Harvester σ) : Harvester σ → Prop
  | stay : Moves h h
  | goOn {j : Job σ} {stage : JobStage σ} (hj : h.job? j.id = some j)
    (hentered : 1 ≤ j.stage.rank) (hrank : j.stage.rank ≤ stage.rank) (records : RecordStore)
    (source : σ) (history : List HistoryEntry) :
    Moves h { h with records, source, history
                     jobs := Keyed.put Job.id { j with stage } h.jobs }
  | enter {j : Job σ} {periodic : List PeriodicJob} (hj : h.job? j.id = some j)
    (hkeyed : j.stage = .keyed)
    (hperiodic : j.origin = .periodic →
      periodic = Keyed.put PeriodicJob.tenant ⟨j.key.tenant, j.id⟩ h.periodic)
    (hmanual : j.origin = .manual → periodic = h.periodic) :
    Moves h { h with periodic, jobs := Keyed.put Job.id { j with stage := .entered } h.jobs }
  | forget {j : Job σ} {stage : JobStage σ} (hj : h.job? j.id = some j) (hover : j.IsOver)
    (hrank : 4 ≤ stage.rank) :
    Moves h { h with periodic := h.periodic.filter (· ≠ ⟨j.key.tenant, j.id⟩)
                     jobs := Keyed.put Job.id { j with stage } h.jobs }
  | release {j : Job σ} (hj : h.job? j.id = some j) (result : Except JobError Summary) :
    Moves h (h.release j result)

theorem Goes.moves {h h' : Harvester σ} (hg : h.Goes h') : h.Moves h' := by
  cases hg with
  | stay => exact .stay
  | enter hj hstage hperiodic hmanual => exact .enter hj hstage hperiodic hmanual
  | announce hj hstage =>
    refine .goOn hj ?_ ?_ _ _ _ <;> simp [hstage, JobStage.rank]
  | run stage hj hfrom hto => exact .goOn hj (by omega) (by omega) _ _ _
  | breakDown hj _ result => exact .release hj result
  | @forget j periodic result hj hstage hperiodic hmanual =>
    have hrank : j.stage.rank = 4 := by rw [hstage, JobStage.rank]
    have hnext : j.stage.rank ≤ (JobStage.forgotten result : JobStage σ).rank :=
      hrank ▸ Nat.le_succ 4
    rcases j.origin.eq_or_eq with horigin | horigin
    · rw [hperiodic horigin]
      exact .forget hj (Nat.le_of_eq hrank.symm) (Nat.le_trans (Nat.le_of_eq hrank.symm) hnext)
    · rw [hmanual horigin]
      exact .goOn hj (by omega) hnext _ _ _
  | recordEnd hj hstage =>
    refine .goOn hj ?_ ?_ _ _ _ <;> simp [hstage, JobStage.rank]
  | leave hj => exact .release hj _

theorem moves_go (o : Outfit σ) (h : Harvester σ) (id : Nat) (step : JobStep) :
    h.Moves (h.go o id step) :=
  (goes_go o h id step).moves

/-! ## Order -/

/-- The keys that are held are those of the jobs, each job has a number of its own, and a periodic
job that may begin providers is entered as that of its tenant unless it was cancelled. -/
structure Orderly (h : Harvester σ) : Prop where
  ids : (h.jobs.map Job.id).Nodup
  id_lt : ∀ j ∈ h.jobs, j.id < h.nextJob
  held : h.registry.held = h.jobs.map Job.holding
  exclusive : h.registry.Exclusive
  whole : ∀ j ∈ h.jobs, j.origin = .periodic → j.provider = none ∧ j.key.provider = none
  entered : ∀ j ∈ h.jobs, j.origin = .periodic → j.isCancelled = false →
    1 ≤ j.stage.rank → ¬ j.IsOver →
    Keyed.get? PeriodicJob.tenant j.key.tenant h.periodic = some ⟨j.key.tenant, j.id⟩

/-- A job that is accepted has a new number and a key that conflicts with none that is held. -/
theorem accept_eq {h h' : Harvester σ} {key : JobKey} {origin : Origin}
    {provider : Option Provider} {id : Nat}
    (haccept : h.accept key origin provider = .ok (id, h')) :
    (∀ k ∈ h.registry.held.map Holding.key, ¬ k.Conflicts key) ∧
      h' = { h with registry := ⟨h.registry.held ++ [⟨h.nextJob, key⟩]⟩
                    nextJob := h.nextJob + 1
                    jobs := h.jobs ++ [{ id := h.nextJob, key, origin, provider }] } := by
  unfold accept Registry.acquire at haccept
  rw [Registry.conflict?_eq] at haccept
  by_cases hfree : ∀ k ∈ h.registry.held.map Holding.key, ¬ k.Conflicts key
  · rw [if_pos hfree] at haccept
    obtain ⟨-, rfl⟩ := Prod.mk.inj (Except.ok.inj haccept)
    exact ⟨hfree, rfl⟩
  · rw [if_neg hfree] at haccept
    split at haccept
    · contradiction
    · next hacquire =>
      split at hacquire
      · contradiction
      · next hnone =>
        split at hnone <;> contradiction

namespace Orderly

/-- There is order where there is no job. -/
theorem new (directory : Directory) (lookupFaults : List (String × LookupFault))
    (records : RecordStore) (source : σ) :
    Orderly { directory, lookupFaults, records, source } where
  ids := List.nodup_nil
  id_lt _ hj := absurd hj List.not_mem_nil
  held := rfl
  exclusive := (Registry.exclusive_iff _).mpr List.Pairwise.nil
  whole _ hj := absurd hj List.not_mem_nil
  entered _ hj := absurd hj List.not_mem_nil

variable {h : Harvester σ}

theorem job?_eq_some_iff (ho : h.Orderly) (id : Nat) (j : Job σ) :
    h.job? id = some j ↔ j ∈ h.jobs ∧ j.id = id :=
  Keyed.get?_eq_some_iff Job.id ho.ids id j

/-- The next job cannot be entered or announced before it is accepted. -/
theorem announce_enter_next (ho : h.Orderly) : (h.enter h.nextJob).announce h.nextJob = h := by
  have hnone : h.job? h.nextJob = none := by
    refine Option.eq_none_iff_forall_ne_some.mpr fun j hj ↦ ?_
    obtain ⟨hm, hid⟩ := (ho.job?_eq_some_iff _ j).mp hj
    exact Nat.ne_of_lt (ho.id_lt j hm) hid
  simp only [enter, announce, hnone]

/-- Jobs whose keys conflict are one. -/
theorem eq_of_conflicts (ho : h.Orderly) {j j' : Job σ} (hj : j ∈ h.jobs) (hj' : j' ∈ h.jobs)
    (hc : j.key.Conflicts j'.key) : j = j' := by
  have hpair : h.jobs.Pairwise fun a b ↦ ¬ a.key.Conflicts b.key := by
    have hheld := (Registry.exclusive_iff _).mp ho.exclusive
    rw [ho.held, List.map_map] at hheld
    exact List.pairwise_map.mp hheld
  have : Std.Symm fun a b : Job σ ↦ ¬ a.key.Conflicts b.key := ⟨fun _ _ hn hc ↦ hn hc.symm⟩
  by_contra hne
  exact hpair.forall hj hj' hne hc

/-- A job for all providers of a tenant is the only job of that tenant. -/
theorem eq_of_whole (ho : h.Orderly) {j j' : Job σ} (hj : j ∈ h.jobs) (hj' : j' ∈ h.jobs)
    (hwhole : j.key.provider = none) (ht : j.key.tenant = j'.key.tenant) : j = j' :=
  ho.eq_of_conflicts hj hj' ⟨ht, Or.inl hwhole⟩

/-- A job may be replaced by itself at another stage, or cancelled. -/
theorem withJob (ho : h.Orderly) (j' : Job σ) {j : Job σ} (hj : h.job? j'.id = some j)
    (hkey : j'.key = j.key) (horigin : j'.origin = j.origin) (hprovider : j'.provider = j.provider)
    {periodic : List PeriodicJob}
    (hentered : ∀ i ∈ Keyed.put Job.id j' h.jobs, i.origin = .periodic → i.isCancelled = false →
      1 ≤ i.stage.rank → ¬ i.IsOver →
      Keyed.get? PeriodicJob.tenant i.key.tenant periodic = some ⟨i.key.tenant, i.id⟩)
    (records : RecordStore) (source : σ) (history : List HistoryEntry) :
    Orderly { h with records, source, history, periodic
                     jobs := Keyed.put Job.id j' h.jobs } where
  ids := Keyed.nodup_put Job.id j' ho.ids
  id_lt := by
    intro i hi
    rcases Keyed.mem_of_mem_put hi with rfl | hi
    · obtain ⟨hm, hid⟩ := (ho.job?_eq_some_iff _ j).mp hj
      exact hid ▸ ho.id_lt j hm
    · exact ho.id_lt i hi
  held := by
    have hsame : j'.holding = j.holding := by
      rw [Job.holding, Job.holding, hkey, id_of_job? hj]
    rw [Keyed.map_put_of_eq ho.ids hj hsame]
    exact ho.held
  exclusive := ho.exclusive
  whole := by
    intro i hi hp
    rcases Keyed.mem_of_mem_put hi with rfl | hi
    · rw [hkey, hprovider]
      exact ho.whole j ((ho.job?_eq_some_iff _ j).mp hj).1 (horigin ▸ hp)
    · exact ho.whole i hi hp
  entered := hentered

theorem release (ho : h.Orderly) {j : Job σ} (hj : h.job? j.id = some j)
    (result : Except JobError Summary) : (h.release j result).Orderly where
  ids := Keyed.nodup_erase Job.id j.id ho.ids
  id_lt := fun i hi ↦ ho.id_lt i (List.mem_filter.mp hi).1
  held := by
    change h.registry.held.filter (· ≠ j.holding) = (h.jobs.filter (·.id ≠ j.id)).map Job.holding
    rw [ho.held, List.filter_map]
    congr 1
    refine List.filter_congr fun i hi ↦ ?_
    have hsame : i.holding = j.holding ↔ i.id = j.id := by
      refine ⟨fun he ↦ (Holding.mk.inj he).1, fun he ↦ ?_⟩
      have hi' := (ho.job?_eq_some_iff j.id i).mpr ⟨hi, he⟩
      rw [Option.some.inj (hi'.symm.trans hj)]
    simp [hsame]
  exclusive := ho.exclusive.sublist List.filter_sublist
  whole := fun i hi ↦ ho.whole i (List.mem_filter.mp hi).1
  entered := fun i hi ↦ ho.entered i (List.mem_filter.mp hi).1

/-- A new job has its key and no more. -/
theorem accept (ho : h.Orderly) {key : JobKey} {origin : Origin} {provider : Option Provider}
    (hwhole : origin = .periodic → provider = none ∧ key.provider = none) {id : Nat}
    {h' : Harvester σ} (haccept : h.accept key origin provider = .ok (id, h')) : h'.Orderly := by
  obtain ⟨hfree, rfl⟩ := accept_eq haccept
  have hnew : ∀ i ∈ h.jobs ++ [{ id := h.nextJob, key, origin, provider }],
      i ∈ h.jobs ∨ i = { id := h.nextJob, key, origin, provider } :=
    fun i hi ↦ (List.mem_append.mp hi).imp_right List.mem_singleton.mp
  refine ⟨?_, ?_, ?_, ?_, ?_, ?_⟩
  · rw [List.map_append]
    refine List.nodup_append.mpr ⟨ho.ids, List.pairwise_singleton _ _, ?_⟩
    rintro a ha b hb rfl
    obtain ⟨i, hi, rfl⟩ := List.mem_map.mp ha
    have hlt := ho.id_lt i hi
    rw [List.mem_singleton.mp hb] at hlt
    exact Nat.lt_irrefl _ hlt
  · intro i hi
    rcases hnew i hi with hi | rfl
    · exact Nat.lt_succ_of_lt (ho.id_lt i hi)
    · exact Nat.lt_succ_self _
  · rw [ho.held, List.map_append]
    rfl
  · exact (Registry.exclusive_concat_iff ho.exclusive _ key).mpr hfree
  · intro i hi hp
    rcases hnew i hi with hi | rfl
    · exact ho.whole i hi hp
    · exact hwhole hp
  · intro i hi hp hc hlow hnot
    rcases hnew i hi with hi | rfl
    · exact ho.entered i hi hp hc hlow hnot
    · exact absurd hlow (Nat.not_succ_le_zero 0)

theorem moves (ho : h.Orderly) {h' : Harvester σ} (hm : h.Moves h') : h'.Orderly := by
  cases hm with
  | stay => exact ho
  | @goOn j stage hj hentered hrank records source history =>
    refine ho.withJob ({ j with stage }) hj rfl rfl rfl ?_ records source history
    intro i hi hp hc hlow hnot
    rcases Keyed.mem_of_mem_put hi with rfl | hi
    · obtain ⟨hm, -⟩ := (ho.job?_eq_some_iff _ j).mp hj
      exact ho.entered j hm hp hc hentered fun hover ↦ hnot (Nat.le_trans hover hrank)
    · exact ho.entered i hi hp hc hlow hnot
  | @enter j periodic hj hkeyed hperiodic hmanual =>
    refine ho.withJob ({ j with stage := .entered }) hj rfl rfl rfl ?_ _ _ _
    obtain ⟨hm, -⟩ := (ho.job?_eq_some_iff _ j).mp hj
    intro i hi hp hc hlow hnot
    rcases Keyed.eq_or_ne_of_mem_put ho.ids hi with rfl | ⟨hi, hne⟩
    · rw [hperiodic hp]
      exact Keyed.get?_put_self PeriodicJob.tenant ⟨j.key.tenant, j.id⟩ h.periodic
    · have hold := ho.entered i hi hp hc hlow hnot
      cases horigin : j.origin with
      | manual => rw [hmanual horigin, hold]
      | periodic =>
        rw [hperiodic horigin, Keyed.get?_put_of_ne, hold]
        -- Two periodic jobs of one tenant would hold the same key.
        intro ht
        obtain rfl : i = j := ho.eq_of_whole hi hm (ho.whole i hi hp).2 ht.symm
        exact hne rfl
  | @forget j stage hj hover hrank =>
    refine ho.withJob ({ j with stage }) hj rfl rfl rfl ?_ _ _ _
    intro i hi hp hc hlow hnot
    rcases Keyed.eq_or_ne_of_mem_put ho.ids hi with rfl | ⟨hi, hne⟩
    · exact absurd hrank hnot
    · refine Keyed.get?_filter (ho.entered i hi hp hc hlow hnot) ?_
      exact decide_eq_true fun he ↦ hne (PeriodicJob.mk.inj he).2
  | release hj result => exact ho.release hj result

/-- A cancelled job need not be entered. -/
theorem cancel (ho : h.Orderly) (id : Nat) : (h.cancel id).Orderly := by
  unfold Harvester.cancel
  split
  · next j hj =>
    obtain rfl := id_of_job? hj
    refine ho.withJob ({ j with isCancelled := true }) hj rfl rfl rfl ?_ _ _ _
    intro i hi hp hc hlow hnot
    rcases Keyed.mem_of_mem_put hi with rfl | hi
    · contradiction
    · exact ho.entered i hi hp hc hlow hnot
  · exact ho

/-- The job of a tenant that is cancelled is the only one that was entered. -/
theorem cancelPeriodic (ho : h.Orderly) (tenant : String) :
    (h.cancelPeriodic tenant).2.Orderly := by
  unfold Harvester.cancelPeriodic
  split
  · next p hp =>
    have hentered : ∀ i ∈ h.jobs, i.id ≠ p.job → i.origin = .periodic → i.isCancelled = false →
        1 ≤ i.stage.rank → ¬ i.IsOver →
        Keyed.get? PeriodicJob.tenant i.key.tenant
          (Keyed.erase PeriodicJob.tenant tenant h.periodic) = some ⟨i.key.tenant, i.id⟩ := by
      intro i hi hne hper hc hlow hnot
      have hold := ho.entered i hi hper hc hlow hnot
      rw [Keyed.get?_erase_of_ne, hold]
      rintro rfl
      rw [hold] at hp
      exact hne (congrArg PeriodicJob.job (Option.some.inj hp))
    simp only [Harvester.cancel]
    split
    · next j hj =>
      have hid : j.id = p.job := Keyed.key_of_get? hj
      have hj' : h.job? j.id = some j := by rw [hid]; exact hj
      refine ho.withJob ({ j with isCancelled := true }) hj' rfl rfl rfl ?_ _ _ _
      intro i hi
      rcases Keyed.eq_or_ne_of_mem_put ho.ids hi with rfl | ⟨hi, hne⟩
      · intro _ hc
        contradiction
      · exact hentered i hi fun he ↦ hne (he.trans hid.symm)
    · next hnone =>
      refine ⟨ho.ids, ho.id_lt, ho.held, ho.exclusive, ho.whole, fun i hi ↦ hentered i hi ?_⟩
      intro he
      have hfound := (ho.job?_eq_some_iff p.job i).mpr ⟨hi, he⟩
      exact Option.some_ne_none _ (hfound.symm.trans hnone)
  · exact ho

end Orderly

/-! ## Tenants at rest -/

/-- Whether every periodic job of a tenant was cancelled or is at its end. -/
def Hushed (h : Harvester σ) (tenant : String) : Prop :=
  ∀ j ∈ h.jobs, j.origin = .periodic → j.key.tenant = tenant → j.isCancelled = true ∨ j.IsOver

namespace Hushed

variable {h : Harvester σ} {tenant : String}

theorem of_mem (hh : h.Hushed tenant) {h' : Harvester σ}
    (hmem : ∀ j' ∈ h'.jobs, j' ∈ h.jobs ∨ ∃ j ∈ h.jobs, j'.origin = j.origin ∧ j'.key = j.key ∧
      (j.isCancelled = true → j'.isCancelled = true) ∧
      (j.IsOver → j'.isCancelled = true ∨ j'.IsOver)) : h'.Hushed tenant := by
  intro j' hj' hp ht
  rcases hmem j' hj' with hj | ⟨j, hj, horigin, hkey, hcancel, hover⟩
  · exact hh j' hj hp ht
  · rcases hh j hj (horigin ▸ hp) (hkey ▸ ht) with hc | ho
    · exact Or.inl (hcancel hc)
    · exact hover ho

/-- A job that goes on stays cancelled, or at its end. -/
theorem moves (hh : h.Hushed tenant) (ho : h.Orderly) {h' : Harvester σ} (hm : h.Moves h') :
    h'.Hushed tenant := by
  have hmem : ∀ {j : Job σ}, h.job? j.id = some j → j ∈ h.jobs :=
    fun hj ↦ ((ho.job?_eq_some_iff _ _).mp hj).1
  cases hm with
  | stay => exact hh
  | @goOn j stage hj hentered hrank =>
    refine hh.of_mem fun j' hj' ↦ (Keyed.mem_of_mem_put hj').symm.imp_right ?_
    rintro rfl
    exact ⟨j, hmem hj, rfl, rfl, id, fun hover ↦ Or.inr (Nat.le_trans hover hrank)⟩
  | @enter j periodic hj hkeyed =>
    refine hh.of_mem fun j' hj' ↦ (Keyed.mem_of_mem_put hj').symm.imp_right ?_
    rintro rfl
    refine ⟨j, hmem hj, rfl, rfl, id, fun hover ↦ ?_⟩
    rw [Job.IsOver, hkeyed] at hover
    contradiction
  | @forget j stage hj hover hrank =>
    refine hh.of_mem fun j' hj' ↦ (Keyed.mem_of_mem_put hj').symm.imp_right ?_
    rintro rfl
    exact ⟨j, hmem hj, rfl, rfl, id, fun _ ↦ Or.inr hrank⟩
  | release => exact hh.of_mem fun j' hj' ↦ Or.inl (List.mem_filter.mp hj').1

theorem cancel (hh : h.Hushed tenant) (ho : h.Orderly) (id : Nat) :
    (h.cancel id).Hushed tenant := by
  unfold Harvester.cancel
  split
  · next j hj =>
    have hm := ((ho.job?_eq_some_iff _ _).mp hj).1
    refine hh.of_mem fun j' hj' ↦ (Keyed.mem_of_mem_put hj').symm.imp_right ?_
    rintro rfl
    exact ⟨j, hm, rfl, rfl, fun _ ↦ rfl, fun _ ↦ Or.inl rfl⟩
  · exact hh

theorem cancelPeriodic (hh : h.Hushed tenant) (ho : h.Orderly) (tenant' : String) :
    (h.cancelPeriodic tenant').2.Hushed tenant := by
  unfold Harvester.cancelPeriodic
  split
  · next p hp =>
    simp only [Harvester.cancel]
    split
    · next j hj =>
      have hm := ((ho.job?_eq_some_iff _ j).mp hj).1
      refine hh.of_mem fun j' hj' ↦ (Keyed.mem_of_mem_put hj').symm.imp_right ?_
      rintro rfl
      exact ⟨j, hm, rfl, rfl, fun _ ↦ rfl, fun _ ↦ Or.inl rfl⟩
    · exact hh
  · exact hh

/-- A new job that is not a periodic one of the tenant leaves it at rest. -/
theorem accept (hh : h.Hushed tenant) {key : JobKey} {origin : Origin}
    {provider : Option Provider} (hother : origin = .periodic → key.tenant ≠ tenant) {id : Nat}
    {h' : Harvester σ} (haccept : h.accept key origin provider = .ok (id, h')) :
    h'.Hushed tenant := by
  obtain ⟨-, rfl⟩ := accept_eq haccept
  intro j hj hp ht
  rcases List.mem_append.mp hj with hj | hj
  · exact hh j hj hp ht
  · obtain rfl := List.mem_singleton.mp hj
    exact absurd ht (hother hp)

/-- A tenant is at rest once its periodic job was cancelled, if each of its periodic jobs was
entered before. -/
theorem of_cancelPeriodic (ho : h.Orderly)
    (hentered : ∀ j ∈ (h.cancelPeriodic tenant).2.jobs, j.origin = .periodic →
      j.key.tenant = tenant → 1 ≤ j.stage.rank) : (h.cancelPeriodic tenant).2.Hushed tenant := by
  have ho' := ho.cancelPeriodic tenant
  have hnone :
      Keyed.get? PeriodicJob.tenant tenant (h.cancelPeriodic tenant).2.periodic = none := by
    unfold Harvester.cancelPeriodic
    split
    · simp only [Harvester.cancel]
      split <;> exact Keyed.get?_erase_self _ _ _
    · assumption
  intro j hj hp ht
  by_contra hnot
  rw [not_or, Bool.not_eq_true] at hnot
  have hfound := ho'.entered j hj hp hnot.1 (hentered j hj hp ht) hnot.2
  rw [ht, hnone] at hfound
  contradiction

/-- No periodic job of a tenant at rest begins a provider. -/
theorem ne_of_begun (hh : h.Hushed tenant) (ho : h.Orderly) {o : Outfit σ} {id : Nat}
    {step : JobStep} {j : Job σ} {p : Provider} (hbegun : (j, p) ∈ h.begun o id step)
    (hp : j.origin = .periodic) : j.key.tenant ≠ tenant := by
  cases step with
  | beginNext =>
    intro ht
    rw [begun, begins] at hbegun
    split at hbegun
    · next i hi =>
      split at hbegun
      · next hstage =>
        rw [List.mem_ite_nil_right, List.mem_singleton] at hbegun
        obtain ⟨⟨-, hgoes⟩, he⟩ := hbegun
        obtain ⟨rfl, -⟩ := Prod.mk.inj he
        obtain ⟨hm, -⟩ := (ho.job?_eq_some_iff _ j).mp hi
        rcases hh j hm hp ht with hc | hover
        · exact hgoes ⟨hc, (ho.whole j hm hp).1⟩
        · rw [Job.IsOver, hstage] at hover
          contradiction
      · contradiction
    · contradiction
  | _ => contradiction

end Hushed

end Harvester
end UsageReports
