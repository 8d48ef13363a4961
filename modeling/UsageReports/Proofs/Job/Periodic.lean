import UsageReports.Proofs.Job.Turns

/-!
# Periodic jobs

The periodic jobs that may be cancelled are those that were entered and neither forgotten nor
cancelled; each holds the key of its tenant. To cancel the periodic job of a tenant is therefore to
cancel that job, if there is one, and to leave all else as it is. A job that ends takes no entry but
its own away.
-/

namespace UsageReports

variable {σ : Type}

namespace Job

/-- Whether a job was entered as the periodic job of its tenant, and neither forgotten nor cancelled
since. -/
def IsEntered (j : Job σ) : Prop :=
  j.origin = .periodic ∧ 1 ≤ j.stage.rank ∧ j.stage.rank ≤ 4 ∧ j.isCancelled = false

instance (j : Job σ) : Decidable j.IsEntered := inferInstanceAs (Decidable (_ ∧ _))

/-- The entry of a job as the periodic job of its tenant. -/
def entry (j : Job σ) : PeriodicJob := ⟨j.key.tenant, j.id⟩

end Job

namespace Harvester

/-- Whether the periodic jobs that may be cancelled are the entered ones, one for each tenant. -/
structure Lists (h : Harvester σ) : Prop where
  tenants : (h.periodic.map PeriodicJob.tenant).Nodup
  mem_iff : ∀ p, p ∈ h.periodic ↔ ∃ j ∈ h.jobs, j.IsEntered ∧ j.entry = p
  /-- Nobody cancels a periodic job before it is entered. -/
  fresh : ∀ j ∈ h.jobs, j.origin = .periodic → j.stage.rank = 0 → j.isCancelled = false

namespace Lists

variable {h : Harvester σ}

theorem idle (directory : Directory) (unread : List (String × StoreError)) (records : RecordStore)
    (source : σ) : (Harvester.idle directory unread records source).Lists where
  tenants := List.nodup_nil
  mem_iff _ := ⟨fun hp ↦ absurd hp List.not_mem_nil, fun ⟨_, hj, _⟩ ↦ absurd hj List.not_mem_nil⟩
  fresh _ hj := absurd hj List.not_mem_nil

/-- A job is put in place of itself, and its entry likewise. -/
theorem withJob (hl : h.Lists) (ho : h.Orderly) (j' : Job σ) {j : Job σ}
    (hj : h.job? j'.id = some j) {periodic : List PeriodicJob}
    (htenants : (periodic.map PeriodicJob.tenant).Nodup)
    (hmem : ∀ p, p ∈ periodic ↔ p ∈ h.periodic ∧ p ≠ j.entry ∨ j'.IsEntered ∧ j'.entry = p)
    (hfresh : j'.origin = .periodic → j'.stage.rank = 0 → j'.isCancelled = false)
    (records : RecordStore) (source : σ) (history : List HistoryEntry) :
    Lists { h with records, source, history, periodic, jobs := Keyed.put Job.id j' h.jobs } where
  tenants := htenants
  mem_iff := by
    obtain ⟨hm, hid⟩ := (ho.job?_eq_some_iff _ j).mp hj
    have hother : ∀ i ∈ h.jobs, i.id ≠ j'.id ↔ i.entry ≠ j.entry := by
      intro i hi
      refine not_congr ⟨fun he ↦ ?_, fun he ↦ (PeriodicJob.mk.inj he).2.trans hid⟩
      have hi' := (ho.job?_eq_some_iff j'.id i).mpr ⟨hi, he⟩
      rw [Option.some.inj (hi'.symm.trans hj)]
    intro p
    rw [hmem, hl.mem_iff]
    constructor
    · rintro (⟨⟨i, hi, hentered, rfl⟩, hne⟩ | ⟨hentered, rfl⟩)
      · have hput := (Keyed.mem_put_iff ho.ids).mpr (Or.inr ⟨hi, (hother i hi).mpr hne⟩)
        exact ⟨i, hput, hentered, rfl⟩
      · exact ⟨j', (Keyed.mem_put_iff ho.ids).mpr (Or.inl rfl), hentered, rfl⟩
    · rintro ⟨i, hi, hentered, rfl⟩
      rcases (Keyed.mem_put_iff ho.ids).mp hi with rfl | ⟨hi, hne⟩
      · exact Or.inr ⟨hentered, rfl⟩
      · exact Or.inl ⟨⟨i, hi, hentered, rfl⟩, (hother i hi).mp hne⟩
  fresh := by
    intro i hi
    rcases Keyed.mem_of_mem_put hi with rfl | hi
    · exact hfresh
    · exact hl.fresh i hi

/-- A job that goes on and stays entered, or stays without an entry, leaves the entries. -/
theorem withSame (hl : h.Lists) (ho : h.Orderly) (j' : Job σ) {j : Job σ}
    (hj : h.job? j'.id = some j) (hentry : j'.entry = j.entry)
    (hentered : j'.IsEntered ↔ j.IsEntered)
    (hfresh : j'.origin = .periodic → j'.stage.rank = 0 → j'.isCancelled = false)
    (records : RecordStore) (source : σ) (history : List HistoryEntry) :
    Lists { h with records, source, history, jobs := Keyed.put Job.id j' h.jobs } := by
  refine hl.withJob ho j' hj hl.tenants (fun p ↦ ?_) hfresh records source history
  obtain ⟨hm, -⟩ := (ho.job?_eq_some_iff _ j).mp hj
  rw [hentry, hentered]
  constructor
  · intro hp
    by_cases he : p = j.entry
    · subst he
      obtain ⟨i, hi, hin, he⟩ := (hl.mem_iff _).mp hp
      have hid : i.id = j'.id := (PeriodicJob.mk.inj (he.trans hentry.symm)).2
      have hij := (ho.job?_eq_some_iff j'.id i).mpr ⟨hi, hid⟩
      obtain rfl := Option.some.inj (hij.symm.trans hj)
      exact Or.inr ⟨hin, rfl⟩
    · exact Or.inl ⟨hp, he⟩
  · rintro (⟨hp, -⟩ | ⟨hin, rfl⟩)
    · exact hp
    · exact (hl.mem_iff _).mpr ⟨j, hm, hin, rfl⟩

theorem withStage (hl : h.Lists) (ho : h.Orderly) {j : Job σ} (stage : JobStage σ)
    (hj : h.job? j.id = some j) (hlow : 1 ≤ stage.rank)
    (hentered : j.origin = .periodic →
      (stage.rank ≤ 4 ↔ 1 ≤ j.stage.rank ∧ j.stage.rank ≤ 4))
    (records : RecordStore) (source : σ) (history : List HistoryEntry) :
    Lists { h with records, source, history
                   jobs := Keyed.put Job.id { j with stage } h.jobs } := by
  refine hl.withSame ho { j with stage } hj rfl ?_ ?_ records source history
  · unfold Job.IsEntered
    constructor
    · rintro ⟨hp, -, hhigh, hc⟩
      obtain ⟨hold, hhigh⟩ := (hentered hp).mp hhigh
      exact ⟨hp, hold, hhigh, hc⟩
    · rintro ⟨hp, hold, hhigh, hc⟩
      exact ⟨hp, hlow, (hentered hp).mpr ⟨hold, hhigh⟩, hc⟩
  · intro _ hzero
    exact absurd hzero (Nat.ne_of_gt hlow)

/-- A job whose entry is taken away. -/
theorem withoutEntry (hl : h.Lists) (ho : h.Orderly) (j' : Job σ) {j : Job σ}
    (hj : h.job? j'.id = some j) (hleft : ¬ j'.IsEntered) {periodic : List PeriodicJob}
    (hsub : periodic.Sublist h.periodic) (hmem : ∀ p ∈ h.periodic, p ∈ periodic ↔ p ≠ j.entry)
    (hfresh : j'.origin = .periodic → j'.stage.rank = 0 → j'.isCancelled = false)
    (records : RecordStore) (source : σ) (history : List HistoryEntry) :
    Lists { h with records, source, history, periodic, jobs := Keyed.put Job.id j' h.jobs } := by
  refine hl.withJob ho j' hj (hl.tenants.sublist (hsub.map _)) (fun p ↦ ?_) hfresh records source
    history
  constructor
  · intro hp
    exact Or.inl ⟨hsub.mem hp, (hmem p (hsub.mem hp)).mp hp⟩
  · rintro (⟨hp, hne⟩ | ⟨hin, -⟩)
    · exact (hmem p hp).mpr hne
    · exact absurd hin hleft

/-- The entry of a tenant is that of the entered job of the tenant. -/
theorem exists_of_get? (hl : h.Lists) {tenant : String} {p : PeriodicJob}
    (hp : Keyed.get? PeriodicJob.tenant tenant h.periodic = some p) :
    ∃ j ∈ h.jobs, j.IsEntered ∧ j.key.tenant = tenant ∧ j.id = p.job := by
  obtain ⟨hm, rfl⟩ := (Keyed.get?_eq_some_iff _ hl.tenants _ _).mp hp
  obtain ⟨j, hj, hin, rfl⟩ := (hl.mem_iff p).mp hm
  exact ⟨j, hj, hin, rfl, rfl⟩

theorem accept (hl : h.Lists) {key : JobKey} {origin : Origin} {provider : Option Provider}
    {id : Nat} {h' : Harvester σ} (haccept : h.accept key origin provider = .ok (id, h')) :
    h'.Lists := by
  obtain ⟨-, rfl⟩ := accept_eq haccept
  refine ⟨hl.tenants, fun p ↦ ?_, ?_⟩
  · rw [hl.mem_iff]
    constructor
    · rintro ⟨j, hj, hin⟩
      exact ⟨j, List.mem_append_left _ hj, hin⟩
    · rintro ⟨j, hj, hin, he⟩
      rcases List.mem_append.mp hj with hj | hj
      · exact ⟨j, hj, hin, he⟩
      · obtain rfl := List.mem_singleton.mp hj
        exact absurd hin.2.1 (Nat.not_succ_le_zero 0)
  · intro j hj
    rcases List.mem_append.mp hj with hj | hj
    · exact hl.fresh j hj
    · obtain rfl := List.mem_singleton.mp hj
      exact fun _ _ ↦ rfl

theorem release (hl : h.Lists) (ho : h.Orderly) {j : Job σ} (hj : h.job? j.id = some j)
    (hleft : ¬ j.IsEntered) (result : Except JobError Summary) : (h.release j result).Lists := by
  refine ⟨hl.tenants, fun p ↦ ?_, fun i hi ↦ hl.fresh i (List.mem_filter.mp hi).1⟩
  change p ∈ h.periodic ↔ ∃ i ∈ Keyed.erase Job.id j.id h.jobs, i.IsEntered ∧ i.entry = p
  rw [hl.mem_iff]
  constructor
  · rintro ⟨i, hi, hin, he⟩
    refine ⟨i, List.mem_filter.mpr ⟨hi, decide_eq_true fun hid ↦ ?_⟩, hin, he⟩
    have hi' := (ho.job?_eq_some_iff j.id i).mpr ⟨hi, hid⟩
    obtain rfl := Option.some.inj (hi'.symm.trans hj)
    exact hleft hin
  · rintro ⟨i, hi, hin, he⟩
    exact ⟨i, (List.mem_filter.mp hi).1, hin, he⟩

/-- Cancelling the periodic job of a tenant takes its entry away and cancels it, if there is one. -/
theorem cancelPeriodic_eq (hl : h.Lists) (ho : h.Orderly) (tenant : String) :
    (∃ j ∈ h.jobs, j.IsEntered ∧ j.key.tenant = tenant ∧
      h.cancelPeriodic tenant = (true, { h with
        periodic := Keyed.erase PeriodicJob.tenant tenant h.periodic
        jobs := Keyed.put Job.id { j with isCancelled := true } h.jobs })) ∨
      (∀ j ∈ h.jobs, j.IsEntered → j.key.tenant ≠ tenant) ∧
        h.cancelPeriodic tenant = (false, h) := by
  unfold cancelPeriodic
  split
  · next p hp =>
    obtain ⟨j, hj, hin, ht, hid⟩ := hl.exists_of_get? hp
    have hfound : Keyed.get? Job.id p.job h.jobs = some j :=
      (ho.job?_eq_some_iff p.job j).mpr ⟨hj, hid⟩
    refine Or.inl ⟨j, hj, hin, ht, ?_⟩
    rw [Harvester.cancel, job?, hfound]
    rfl
  · next hnone =>
    refine Or.inr ⟨fun j hj hin ht ↦ ?_, rfl⟩
    have hp := (hl.mem_iff j.entry).mpr ⟨j, hj, hin, rfl⟩
    have hfound := (Keyed.get?_eq_some_iff PeriodicJob.tenant hl.tenants tenant _).mpr ⟨hp, ht⟩
    exact Option.some_ne_none _ (hfound.symm.trans hnone)

/-- Removing the entry of a tenant removes that of its entered job and no other. -/
theorem mem_erase_iff (hl : h.Lists) {j : Job σ} (hj : j ∈ h.jobs) (hin : j.IsEntered)
    {p : PeriodicJob} (hp : p ∈ h.periodic) :
    p ∈ Keyed.erase PeriodicJob.tenant j.key.tenant h.periodic ↔ p ≠ j.entry := by
  rw [Keyed.erase, List.mem_filter, decide_eq_true_iff]
  constructor
  · rintro ⟨-, hne⟩ rfl
    exact hne rfl
  · intro hne
    refine ⟨hp, fun ht ↦ hne ?_⟩
    have hentry := (hl.mem_iff j.entry).mpr ⟨j, hj, hin, rfl⟩
    have hfound := Keyed.get?_eq_some_iff PeriodicJob.tenant hl.tenants j.key.tenant
    exact Option.some.inj (((hfound p).mpr ⟨hp, ht⟩).symm.trans ((hfound _).mpr ⟨hentry, rfl⟩))

/-- While a periodic job waits to be entered no other job of its tenant is: that one would hold the
same key. -/
theorem ne_of_keyed (hl : h.Lists) (ho : h.Orderly) {j : Job σ} (hj : h.job? j.id = some j)
    (hrank : j.stage.rank = 0) {p : PeriodicJob} (hp : p ∈ h.periodic) :
    p.tenant ≠ j.key.tenant := by
  intro ht
  obtain ⟨hm, -⟩ := (ho.job?_eq_some_iff _ j).mp hj
  obtain ⟨i, hi, hin, rfl⟩ := (hl.mem_iff p).mp hp
  obtain rfl : i = j := ho.eq_of_whole hi hm (ho.whole i hi hin.1).2 ht
  have hlow := hin.2.1
  omega

theorem enter (hl : h.Lists) (ho : h.Orderly) {j : Job σ} (hj : h.job? j.id = some j)
    (hrank : j.stage.rank = 0) (horigin : j.origin = .periodic) :
    Lists { h with
      periodic := Keyed.put PeriodicJob.tenant j.entry h.periodic
      jobs := Keyed.put Job.id { j with stage := .entered } h.jobs } := by
  obtain ⟨hm, -⟩ := (ho.job?_eq_some_iff _ j).mp hj
  have hentered : ({ j with stage := .entered } : Job σ).IsEntered :=
    ⟨horigin, Nat.le_refl 1, by simp [JobStage.rank], hl.fresh j hm horigin hrank⟩
  refine hl.withJob ho { j with stage := .entered } hj
    (Keyed.nodup_put PeriodicJob.tenant _ hl.tenants) (fun p ↦ ?_) (fun _ hzero ↦ ?_) _ _ _
  · rw [Keyed.mem_put_iff hl.tenants]
    constructor
    · rintro (rfl | ⟨hp, hne⟩)
      · exact Or.inr ⟨hentered, rfl⟩
      · exact Or.inl ⟨hp, fun he ↦ hne (congrArg PeriodicJob.tenant he)⟩
    · rintro (⟨hp, -⟩ | ⟨-, rfl⟩)
      · exact Or.inr ⟨hp, hl.ne_of_keyed ho hj hrank hp⟩
      · exact Or.inl rfl
  · contradiction

/-- A step of a job leaves the entries those of the entered jobs. -/
theorem goes (hl : h.Lists) (hs : h.Steady) {h' : Harvester σ} (hg : h.Goes h') : h'.Lists := by
  have ho := hs.orderly
  cases hg with
  | stay => exact hl
  | @enter j periodic hj hstage hperiodic hmanual =>
    have hrank : j.stage.rank = 0 := by rw [hstage, JobStage.rank]
    rcases j.origin.eq_or_eq with horigin | horigin
    · rw [hperiodic horigin]
      exact hl.enter ho hj hrank horigin
    · rw [hmanual horigin]
      refine hl.withStage ho .entered hj (Nat.le_refl 1) (fun hp ↦ ?_) _ _ _
      rw [horigin] at hp
      contradiction
  | announce hj hstage =>
    refine hl.withStage ho _ hj ?_ (fun _ ↦ ?_) _ _ _ <;> simp [hstage, JobStage.rank]
  | run stage hj hfrom hto =>
    exact hl.withStage ho stage hj (by omega) (fun _ ↦ by omega) _ _ _
  | breakDown _ hbreaks => exact absurd hbreaks (hs.unbroken _)
  | @forget j periodic result hj hstage hperiodic hmanual =>
    rcases j.origin.eq_or_eq with horigin | horigin
    · rw [hperiodic horigin]
      refine hl.withoutEntry ho { j with stage := .forgotten result } hj (fun hin ↦ ?_)
        List.filter_sublist (fun p hp ↦ ?_) (fun _ hzero ↦ ?_) _ _ _
      · exact absurd hin.2.2.1 (by simp [JobStage.rank])
      · simp [List.mem_filter, hp, Job.entry]
      · contradiction
    · rw [hmanual horigin]
      refine hl.withStage ho (.forgotten result) hj (by simp [JobStage.rank]) (fun hp ↦ ?_) _ _ _
      rw [horigin] at hp
      contradiction
  | recordEnd hj hstage =>
    refine hl.withStage ho _ hj ?_ (fun _ ↦ ?_) _ _ _ <;> simp [hstage, JobStage.rank]
  | leave hj hstage =>
    refine hl.release ho hj (fun hin ↦ ?_) _
    have hlow := hin.2.2.1
    rw [hstage] at hlow
    contradiction

/-- Every change leaves the entries those of the entered jobs. -/
theorem change (hl : h.Lists) (hs : h.Steady) {h' : Harvester σ} (hc : h.Change h') :
    h'.Lists := by
  have ho := hs.orderly
  cases hc with
  | goes hg => exact hl.goes hs hg
  | accept _ haccept => exact hl.accept haccept
  | @cancel j hj hmanual =>
    have hnot : ∀ i : Job σ, i.origin = .manual → ¬ i.IsEntered := by
      intro i hm hin
      rw [hin.1] at hm
      contradiction
    refine hl.withSame ho { j with isCancelled := true } hj rfl ?_ ?_ _ _ _
    · exact iff_of_false (hnot _ hmanual) (hnot _ hmanual)
    · intro hp
      rw [hmanual] at hp
      contradiction
  | cancelPeriodic tenant =>
    rcases hl.cancelPeriodic_eq ho tenant with ⟨j, hj, hin, rfl, he⟩ | ⟨-, he⟩ <;> rw [he]
    · have hfound : h.job? j.id = some j := (ho.job?_eq_some_iff _ _).mpr ⟨hj, rfl⟩
      refine hl.withoutEntry ho { j with isCancelled := true } hfound (fun h ↦ ?_)
        List.filter_sublist (fun p hp ↦ ?_) (fun _ hzero ↦ ?_) _ _ _
      · cases h.2.2.2
      · exact hl.mem_erase_iff hj hin hp
      · exact absurd hin.2.1 (by simp [show j.stage.rank = 0 from hzero])
    · exact hl
  | outside => exact ⟨hl.tenants, hl.mem_iff, hl.fresh⟩

end Lists

/-! ## Entries that go -/

variable {o : Outfit σ} {h : Harvester σ}

/-- Only entering and forgetting a job change the entries. -/
theorem periodic_go {id : Nat} {step : JobStep} (henter : step ≠ .enter)
    (hforget : step ≠ .forget) : (h.go o id step).periodic = h.periodic := by
  cases step with
  | enter => contradiction
  | forget => contradiction
  | _ =>
    simp only [go, announce, begin, beginNext, endFirst, finish, recordEnd, leave]
    repeat' split
    all_goals rfl

theorem periodic_endAt (id place : Nat) : (h.endAt o id place).periodic = h.periodic := by
  unfold endAt
  repeat' split
  all_goals rfl

theorem periodic_cancel (id : Nat) : (h.cancel id).periodic = h.periodic := by
  unfold cancel
  split <;> rfl

/-- A job that enters takes no other entry's place. -/
theorem Lists.mem_periodic_enter (hl : h.Lists) (ho : h.Orderly) {p : PeriodicJob}
    (hp : p ∈ h.periodic) (id : Nat) : p ∈ (h.enter id).periodic := by
  unfold Harvester.enter
  split
  · next j hj =>
    obtain rfl := id_of_job? hj
    split
    · next hstage =>
      have hrank : j.stage.rank = 0 := by rw [hstage, JobStage.rank]
      split
      · exact (Keyed.mem_put_iff hl.tenants).mpr (Or.inr ⟨hp, hl.ne_of_keyed ho hj hrank hp⟩)
      · exact hp
    · exact hp
  · exact hp

/-- A job that is forgotten takes no entry but its own away. -/
theorem mem_periodic_forget {p : PeriodicJob} (hp : p ∈ h.periodic) {id : Nat} (hne : p.job ≠ id) :
    p ∈ (h.forget id).periodic := by
  unfold forget
  split
  · split
    · dsimp only
      split
      · exact List.mem_filter.mpr ⟨hp, decide_eq_true fun he ↦ hne (by rw [he])⟩
      · exact hp
    · exact hp
  · exact hp

/-- Cancelling the periodic job of a tenant takes no entry of another tenant away. -/
theorem mem_periodic_cancelPeriodic {p : PeriodicJob} (hp : p ∈ h.periodic) {tenant : String}
    (hne : p.tenant ≠ tenant) : p ∈ (h.cancelPeriodic tenant).2.periodic := by
  unfold cancelPeriodic
  split
  · rw [periodic_cancel]
    exact List.mem_filter.mpr ⟨hp, decide_eq_true hne⟩
  · exact hp

/-- An entry goes when the periodic job of its tenant is cancelled, or its own job is forgotten. -/
theorem Lists.eq_of_gone (hl : h.Lists) (ho : h.Orderly) {t : Turn σ} {p : PeriodicJob}
    (hp : p ∈ h.periodic) (hgone : p ∉ (h.turn o t).periodic) :
    t = .cancelPeriodic p.tenant ∨ t = .job p.job .forget := by
  contrapose! hgone
  obtain ⟨hcancel, hforget⟩ := hgone
  cases t with
  | ask request =>
    rw [turn]
    rcases h.grant_cases request with ⟨⟨e, he⟩, -⟩ | ⟨-, origin, provider, -, hgrant⟩
    · rwa [he]
    · rw [hgrant]
      split
      · next haccept =>
        obtain ⟨-, rfl⟩ := accept_eq haccept
        exact hp
      · exact hp
  | job id step =>
    rw [turn]
    by_cases henter : step = .enter
    · subst henter
      exact hl.mem_periodic_enter ho hp id
    · by_cases hstep : step = .forget
      · subst hstep
        exact mem_periodic_forget hp fun he ↦ hforget (by rw [he])
      · rwa [periodic_go henter hstep]
  | endAt id place => rwa [turn, periodic_endAt]
  | cancel id =>
    rw [turn]
    split
    · split
      · rwa [periodic_cancel]
      · exact hp
    · exact hp
  | cancelPeriodic tenant => exact mem_periodic_cancelPeriodic hp fun ht ↦ hcancel (by rw [ht])
  | outside => exact hp

/-! ## Cancelling -/

/-- Whether cancelling the periodic job of a tenant cancels the entered job of the tenant and does
nothing else. -/
structure Hits (h : Harvester σ) (tenant : String) : Prop where
  told : (h.cancelPeriodic tenant).1 = true ↔ ∃ j ∈ h.jobs, j.IsEntered ∧ j.key.tenant = tenant
  jobs : ∀ id, (h.cancelPeriodic tenant).2.job? id = (h.job? id).map fun j ↦
    if j.IsEntered ∧ j.key.tenant = tenant then { j with isCancelled := true } else j
  rest : ∃ periodic jobs, (h.cancelPeriodic tenant).2 = { h with periodic, jobs }
  missed : (h.cancelPeriodic tenant).1 = false → (h.cancelPeriodic tenant).2 = h

theorem Lists.hits (hl : h.Lists) (ho : h.Orderly) (tenant : String) : h.Hits tenant := by
  rcases hl.cancelPeriodic_eq ho tenant with ⟨j, hj, hin, ht, he⟩ | ⟨hnone, he⟩
  · have hcond : j.IsEntered ∧ j.key.tenant = tenant := ⟨hin, ht⟩
    refine ⟨?_, fun id ↦ ?_, ⟨_, _, congrArg Prod.snd he⟩, fun hmiss ↦ ?_⟩
    · rw [he]
      exact iff_of_true rfl ⟨j, hj, hcond⟩
    · rw [he]
      by_cases hid : j.id = id
      · have hfound : h.job? id = some j := (ho.job?_eq_some_iff id j).mpr ⟨hj, hid⟩
        subst hid
        rw [hfound, Option.map_some, if_pos hcond]
        exact Keyed.get?_put_self Job.id { j with isCancelled := true } h.jobs
      · have hfound : h.job? j.id = some j := (ho.job?_eq_some_iff _ j).mpr ⟨hj, rfl⟩
        refine (job?_putCancelled_of_ne hfound hid).trans (Eq.symm ?_)
        cases hi : h.job? id with
        | none => rfl
        | some i =>
          obtain ⟨him, hiid⟩ := (ho.job?_eq_some_iff id i).mp hi
          rw [Option.map_some, if_neg]
          rintro ⟨-, hti⟩
          obtain rfl : j = i := ho.eq_of_whole hj him (ho.whole j hj hin.1).2 (ht.trans hti.symm)
          exact hid hiid
    · rw [he] at hmiss
      contradiction
  · refine ⟨?_, fun id ↦ ?_, ⟨h.periodic, h.jobs, congrArg Prod.snd he⟩, fun _ ↦ by rw [he]⟩
    · rw [he]
      refine iff_of_false Bool.false_ne_true ?_
      rintro ⟨j, hj, hin, ht⟩
      exact hnone j hj hin ht
    · rw [he]
      cases hi : h.job? id with
      | none => rfl
      | some i =>
        obtain ⟨him, -⟩ := (ho.job?_eq_some_iff id i).mp hi
        rw [Option.map_some, if_neg fun h ↦ hnone i him h.1 h.2]

/-- A tenant's entered job holds the key for all providers, and no other job of the tenant any. -/
theorem Lists.held (hl : h.Lists) (ho : h.Orderly) {p : PeriodicJob} (hp : p ∈ h.periodic) :
    ⟨p.job, ⟨p.tenant, none⟩⟩ ∈ h.registry.held ∧
      ∀ x ∈ h.registry.held, x.key.tenant = p.tenant → x = ⟨p.job, ⟨p.tenant, none⟩⟩ := by
  obtain ⟨j, hj, hin, rfl⟩ := (hl.mem_iff p).mp hp
  have hwhole := (ho.whole j hj hin.1).2
  have hholding : j.holding = ⟨j.entry.job, ⟨j.entry.tenant, none⟩⟩ := by
    rw [Job.holding, Job.entry, ← hwhole]
  rw [ho.held, ← hholding]
  refine ⟨List.mem_map_of_mem hj, fun x hx ht ↦ ?_⟩
  obtain ⟨i, hi, rfl⟩ := List.mem_map.mp hx
  rw [ho.eq_of_whole hj hi hwhole ht.symm]

/-- However jobs are asked for, go on, end and are cancelled: the periodic jobs that may be
cancelled are the entered ones that are neither forgotten nor cancelled, one for each tenant at
most, and each holds the key of its tenant. Cancelling the periodic job of a tenant cancels that
job, tells whether there was one, and does nothing else. An entry goes only when the periodic job of
its tenant is cancelled or its own job is forgotten. -/
theorem cancelPeriodic_hits_entered_job (o : Outfit σ) (directory : Directory)
    (unread : List (String × StoreError)) (records : RecordStore) (source : σ)
    (turns : List (Turn σ)) :
    let h := (idle directory unread records source).through o turns
    (h.periodic.map PeriodicJob.tenant).Nodup ∧
      (∀ p, p ∈ h.periodic ↔ ∃ j ∈ h.jobs, j.IsEntered ∧ j.entry = p) ∧
      (∀ p ∈ h.periodic, ⟨p.job, ⟨p.tenant, none⟩⟩ ∈ h.registry.held ∧
        ∀ x ∈ h.registry.held, x.key.tenant = p.tenant → x = ⟨p.job, ⟨p.tenant, none⟩⟩) ∧
      (∀ tenant, h.Hits tenant) ∧
      ∀ t, ∀ p ∈ h.periodic, p ∉ (h.turn o t).periodic →
        t = .cancelPeriodic p.tenant ∨ t = .job p.job .forget := by
  intro h
  obtain ⟨⟨ho, -⟩, hl⟩ : h.Steady ∧ h.Lists :=
    through_induction (fun _ _ hs hc hl ↦ hl.change hs hc)
      (steady_idle directory unread records source) (.idle directory unread records source) turns
  exact ⟨hl.tenants, hl.mem_iff, fun p hp ↦ hl.held ho hp, hl.hits ho,
    fun t p hp hgone ↦ hl.eq_of_gone ho hp hgone⟩

section Successors

/-- What is harvested with: sources that have no records. -/
private def fruitless : Outfit Unit :=
  { settings := {}, lastCompleted := .january 2021, create := fun _ ↦ .ok ()
    fetch := fun _ _ _ ↦ (.records [], ()) }

/-- A periodic job from its request to its end. -/
private def firstJob : List (Turn Unit) :=
  [.ask (.whole "a" .periodic), .job 0 .enter, .job 0 .announce, .job 0 .begin, .job 0 .finish,
    .job 0 .forget, .job 0 .recordEnd, .job 0 .leave]

/-- The next periodic job of the tenant is entered, and the first one is forgotten once more. -/
private def nextJobs : List (Turn Unit) :=
  [.ask (.whole "a" .periodic), .job 1 .enter, .job 0 .forget, .ask (.whole "a" .manual)]

/-- The job that is cancelled is the one that is entered, and it is cancelled once. -/
theorem cancelPeriodic_hits_entered_job_next :
    let h :=
      (idle ⟨[]⟩ [] { archive := .memory .empty } ()).through fruitless (firstJob ++ nextJobs)
    h.periodic = [⟨"a", 1⟩] ∧ ⟨1, ⟨"a", none⟩⟩ ∈ h.registry.held ∧ h.Hits "a" ∧
      (h.cancelPeriodic "a").1 = true ∧ ((h.cancelPeriodic "a").2.cancelPeriodic "a").1 = false :=
  have h := cancelPeriodic_hits_entered_job fruitless ⟨[]⟩ [] { archive := .memory .empty } ()
    (firstJob ++ nextJobs)
  ⟨by decide +kernel, (h.2.2.1 ⟨"a", 1⟩ (by decide +kernel)).1, h.2.2.2.1 "a", by decide +kernel,
    by decide +kernel⟩

end Successors

end Harvester
end UsageReports
