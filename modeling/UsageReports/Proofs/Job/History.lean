import UsageReports.Proofs.Job.Turns

/-!
# The history of jobs

The history tells of each job that it started and, once it is over, how it ended, and no more. The
job holds its key from before the one until after the other, so that of two jobs whose keys conflict
one has ended in the history before the other starts there. A request that is refused leaves
everything as it is.
-/

namespace UsageReports

variable {σ : Type}

/-- What the history tells of a job that stands at a stage. -/
def JobStage.told : JobStage σ → List JobEvent
  | .keyed | .entered => []
  | .started | .running _ _ _ | .ended _ | .forgotten _ => [.started]
  | .recorded result => [.started, .ofResult result]

theorem JobStage.told_of_rank {stage : JobStage σ} (hlow : 2 ≤ stage.rank)
    (hhigh : stage.rank ≤ 5) : stage.told = [.started] := by
  cases stage <;> simp [rank] at hlow hhigh ⊢ <;> rfl

theorem JobEvent.ofResult_ne_started (result : Except JobError Summary) :
    ofResult result ≠ .started := by
  cases result <;> exact JobEvent.noConfusion

namespace HistoryEntry

/-- What a history tells of a job. -/
def eventsOf (id : Nat) (history : List HistoryEntry) : List JobEvent :=
  (history.filter (·.job = id)).map HistoryEntry.event

variable {id : Nat} {history : List HistoryEntry} {x : HistoryEntry}

theorem eventsOf_concat_self (hid : x.job = id) :
    eventsOf id (history ++ [x]) = eventsOf id history ++ [x.event] := by
  simp [eventsOf, List.filter_append, hid]

theorem eventsOf_concat_of_ne (hid : x.job ≠ id) :
    eventsOf id (history ++ [x]) = eventsOf id history := by
  simp [eventsOf, List.filter_append, hid]

theorem mem_eventsOf {event : JobEvent} :
    event ∈ eventsOf id history ↔ ∃ x ∈ history, x.job = id ∧ x.event = event := by
  simp [eventsOf, and_assoc]

end HistoryEntry

namespace Harvester

open HistoryEntry (eventsOf mem_eventsOf)

/-- Whether the history tells of each job what its stage is, and of those that have left how they
ended. -/
structure Chronicled (h : Harvester σ) : Prop where
  live : ∀ j ∈ h.jobs, eventsOf j.id h.history = j.stage.told
  left : ∀ id < h.nextJob, h.job? id = none →
    ∃ result, h.result? id = some result ∧ eventsOf id h.history = [.started, .ofResult result]
  own : ∀ j ∈ h.jobs, ∀ x ∈ h.history, x.job = j.id → x.key = j.key ∧ x.origin = j.origin
  same : ∀ x ∈ h.history, ∀ y ∈ h.history, x.job = y.job → x.key = y.key ∧ x.origin = y.origin
  /-- Nothing is told of jobs that there have not been. -/
  known : ∀ x ∈ h.history, x.job < h.nextJob
  /-- No job has a result before it leaves. -/
  unresolved : ∀ id, h.nextJob ≤ id ∨ h.job? id ≠ none → h.result? id = none
  /-- A job starts in the history when those whose keys conflict with its key have ended there. -/
  apart : ∀ before x, before ++ [x] <+: h.history → x.event = .started →
    ∀ y ∈ before, y.key.Conflicts x.key → ∃ z ∈ before, z.job = y.job ∧ z.event ≠ .started

namespace Chronicled

variable {h : Harvester σ}

theorem idle (directory : Directory) (unread : List (String × StoreError)) (records : RecordStore)
    (source : σ) : (Harvester.idle directory unread records source).Chronicled where
  live _ hj := absurd hj List.not_mem_nil
  left _ hid := absurd hid (Nat.not_lt_zero _)
  own _ hj := absurd hj List.not_mem_nil
  same _ hx := absurd hx List.not_mem_nil
  known _ hx := absurd hx List.not_mem_nil
  unresolved _ _ := rfl
  apart before x hinit := by
    have hlen := hinit.length_le
    rw [List.length_append] at hlen
    contradiction

/-- Where a job was put in place of itself the same jobs are there. -/
theorem job?_put_eq_none_iff (j' : Job σ) {j : Job σ} (hj : h.job? j'.id = some j) (id : Nat) :
    Keyed.get? Job.id id (Keyed.put Job.id j' h.jobs) = none ↔ h.job? id = none := by
  by_cases hid : j'.id = id
  · subst hid
    rw [Keyed.get?_put_self, hj]
    exact iff_of_false (Option.some_ne_none _) (Option.some_ne_none _)
  · rw [Keyed.get?_put_of_ne Job.id hid]
    rfl

/-- A job is put in place of itself of which the same is to be told. -/
theorem withJob (hc : h.Chronicled) (ho : h.Orderly) (j' : Job σ) {j : Job σ}
    (hj : h.job? j'.id = some j) (hkey : j'.key = j.key) (horigin : j'.origin = j.origin)
    (htold : j'.stage.told = j.stage.told) (records : RecordStore) (source : σ)
    (periodic : List PeriodicJob) :
    Chronicled { h with records, source, periodic, jobs := Keyed.put Job.id j' h.jobs } := by
  obtain ⟨hm, hid⟩ := (ho.job?_eq_some_iff _ j).mp hj
  refine { hc with live := ?_, left := ?_, own := ?_, unresolved := ?_ }
  · intro i hi
    rcases Keyed.mem_of_mem_put hi with rfl | hi
    · rw [← hid, htold]
      exact hc.live j hm
    · exact hc.live i hi
  · intro id hlt hnone
    exact hc.left id hlt ((job?_put_eq_none_iff j' hj id).mp hnone)
  · intro i hi
    rcases Keyed.mem_of_mem_put hi with rfl | hi
    · rw [← hid, hkey, horigin]
      exact hc.own j hm
    · exact hc.own i hi
  · intro id hthere
    exact hc.unresolved id (hthere.imp_right (mt (job?_put_eq_none_iff j' hj id).mpr))

/-- The history is told of a job. A job of which nothing was told yet may be announced: the jobs of
conflicting keys that the history knows have left, and it knows how they ended. -/
theorem apart_concat (hc : h.Chronicled) (ho : h.Orderly) {j : Job σ} (hm : j ∈ h.jobs)
    {event : JobEvent} (hfirst : event = .started → j.stage.told = [])
    (before : List HistoryEntry) (x : HistoryEntry)
    (hinit : before ++ [x] <+: h.history ++ [⟨j.id, j.key, j.origin, event⟩])
    (hx : x.event = .started) (y : HistoryEntry) (hy : y ∈ before)
    (hconflict : y.key.Conflicts x.key) : ∃ z ∈ before, z.job = y.job ∧ z.event ≠ .started := by
  rcases List.prefix_concat_iff.mp hinit with he | hold
  · obtain ⟨rfl, hlast⟩ := List.append_inj' he rfl
    obtain rfl := List.singleton_inj.mp hlast
    cases hjob : h.job? y.job with
    | some i =>
      obtain ⟨him, hid⟩ := (ho.job?_eq_some_iff _ i).mp hjob
      rw [(hc.own i him y hy hid.symm).1] at hconflict
      obtain rfl := ho.eq_of_conflicts him hm hconflict
      have hevent : y.event ∈ eventsOf i.id h.history := mem_eventsOf.mpr ⟨y, hy, hid.symm, rfl⟩
      rw [hc.live i him, hfirst hx] at hevent
      contradiction
    | none =>
      obtain ⟨result, -, htold⟩ := hc.left y.job (hc.known y hy) hjob
      have hend : JobEvent.ofResult result ∈ eventsOf y.job h.history := by simp [htold]
      obtain ⟨z, hz, hjob, hevent⟩ := mem_eventsOf.mp hend
      exact ⟨z, hz, hjob, hevent ▸ JobEvent.ofResult_ne_started result⟩
  · exact hc.apart before x hold hx y hy hconflict

/-- A job goes on, and the history is told. -/
theorem withNote (hc : h.Chronicled) (ho : h.Orderly) {j : Job σ} {stage : JobStage σ}
    (hj : h.job? j.id = some j) {event : JobEvent} (htold : stage.told = j.stage.told ++ [event])
    (hfirst : event = .started → j.stage.told = []) :
    Chronicled { h with
      history := h.history ++ [⟨j.id, j.key, j.origin, event⟩]
      jobs := Keyed.put Job.id { j with stage } h.jobs } := by
  obtain ⟨hm, -⟩ := (ho.job?_eq_some_iff _ j).mp hj
  have hown : ∀ x ∈ h.history ++ [⟨j.id, j.key, j.origin, event⟩], x.job = j.id →
      x.key = j.key ∧ x.origin = j.origin := by
    intro x hx hid
    rcases List.mem_append.mp hx with hx | hx
    · exact hc.own j hm x hx hid
    · rw [List.mem_singleton.mp hx]
      exact ⟨rfl, rfl⟩
  constructor
  case live =>
    intro i hi
    rcases Keyed.eq_or_ne_of_mem_put ho.ids hi with rfl | ⟨hi, hne⟩
    · have hself : eventsOf j.id (h.history ++ [⟨j.id, j.key, j.origin, event⟩]) =
          eventsOf j.id h.history ++ [event] := HistoryEntry.eventsOf_concat_self rfl
      refine hself.trans ?_
      rw [hc.live j hm]
      exact htold.symm
    · rw [HistoryEntry.eventsOf_concat_of_ne (Ne.symm hne)]
      exact hc.live i hi
  case left =>
    intro id hlt hnone
    have hold := (job?_put_eq_none_iff { j with stage } hj id).mp hnone
    have hne : j.id ≠ id := by
      rintro rfl
      exact Option.some_ne_none _ (hj.symm.trans hold)
    rw [HistoryEntry.eventsOf_concat_of_ne hne]
    exact hc.left id hlt hold
  case own =>
    intro i hi x hx hid
    rcases Keyed.eq_or_ne_of_mem_put ho.ids hi with rfl | ⟨hi, hne⟩
    · exact hown x hx hid
    · rcases List.mem_append.mp hx with hx | hx
      · exact hc.own i hi x hx hid
      · rw [List.mem_singleton.mp hx] at hid
        exact absurd hid.symm hne
  case same =>
    intro x hx y hy hxy
    by_cases hid : x.job = j.id
    · obtain ⟨hxkey, hxorigin⟩ := hown x hx hid
      obtain ⟨hykey, hyorigin⟩ := hown y hy (hxy.symm.trans hid)
      exact ⟨hxkey.trans hykey.symm, hxorigin.trans hyorigin.symm⟩
    · have hold : ∀ z ∈ h.history ++ [⟨j.id, j.key, j.origin, event⟩], z.job ≠ j.id →
          z ∈ h.history := by
        intro z hz hne
        refine (List.mem_append.mp hz).resolve_right fun hz ↦ hne ?_
        rw [List.mem_singleton.mp hz]
      exact hc.same x (hold x hx hid) y (hold y hy (hxy ▸ hid)) hxy
  case known =>
    intro x hx
    rcases List.mem_append.mp hx with hx | hx
    · exact hc.known x hx
    · rw [List.mem_singleton.mp hx]
      exact ho.id_lt j hm
  case unresolved =>
    intro id hthere
    exact hc.unresolved id
      (hthere.imp_right (mt (job?_put_eq_none_iff { j with stage } hj id).mpr))
  case apart => exact hc.apart_concat ho hm hfirst

theorem accept (hc : h.Chronicled) {key : JobKey} {origin : Origin} {provider : Option Provider}
    {id : Nat} {h' : Harvester σ} (haccept : h.accept key origin provider = .ok (id, h')) :
    h'.Chronicled := by
  obtain ⟨-, rfl⟩ := accept_eq haccept
  have hnothing : eventsOf h.nextJob h.history = [] := by
    refine List.eq_nil_iff_forall_not_mem.mpr fun event hevent ↦ ?_
    obtain ⟨x, hx, hid, -⟩ := mem_eventsOf.mp hevent
    exact Nat.ne_of_lt (hc.known x hx) hid
  have hnew : ∀ i ∈ h.jobs ++ [{ id := h.nextJob, key, origin, provider }],
      i ∈ h.jobs ∨ i = { id := h.nextJob, key, origin, provider } :=
    fun i hi ↦ (List.mem_append.mp hi).imp_right List.mem_singleton.mp
  have hfound : ∀ id, Keyed.get? Job.id id
      (h.jobs ++ [{ id := h.nextJob, key, origin, provider }]) =
        (h.job? id).or (Keyed.get? Job.id id [{ id := h.nextJob, key, origin, provider }]) :=
    fun id ↦ List.find?_append
  constructor
  case live =>
    intro i hi
    rcases hnew i hi with hi | rfl
    · exact hc.live i hi
    · exact hnothing
  case left =>
    intro id hlt hnone
    obtain ⟨hold, hlast⟩ := Option.or_eq_none_iff.mp ((hfound id).symm.trans hnone)
    have hne : h.nextJob ≠ id := by
      rintro rfl
      simp [Keyed.get?] at hlast
    exact hc.left id (Nat.lt_of_le_of_ne (Nat.le_of_lt_succ hlt) (Ne.symm hne)) hold
  case own =>
    intro i hi x hx hid
    rcases hnew i hi with hi | rfl
    · exact hc.own i hi x hx hid
    · exact absurd hid (Nat.ne_of_lt (hc.known x hx))
  case same => exact hc.same
  case known => exact fun x hx ↦ Nat.lt_succ_of_lt (hc.known x hx)
  case unresolved =>
    intro id hthere
    refine hc.unresolved id ?_
    by_cases hle : h.nextJob ≤ id
    · exact Or.inl hle
    · refine hthere.imp (fun hle' ↦ absurd (Nat.le_of_succ_le hle') hle) fun hsome hold ↦ hsome ?_
      refine (hfound id).trans (Option.or_eq_none_iff.mpr ⟨hold, ?_⟩)
      have hne : h.nextJob ≠ id := fun he ↦ hle (Nat.le_of_eq he)
      simp [Keyed.get?, hne]
  case apart => exact hc.apart

theorem release (hc : h.Chronicled) (ho : h.Orderly) {j : Job σ} (hj : h.job? j.id = some j)
    {result : Except JobError Summary} (hstage : j.stage = .recorded result) :
    (h.release j result).Chronicled := by
  obtain ⟨hm, -⟩ := (ho.job?_eq_some_iff _ j).mp hj
  have hstill : ∀ i ∈ Keyed.erase Job.id j.id h.jobs, i ∈ h.jobs :=
    fun i hi ↦ (List.mem_filter.mp hi).1
  have hresult : ∀ id, (h.release j result).result? id =
      (h.result? id).or (if id = j.id then some result else none) := by
    intro id
    rw [result?, Harvester.release, List.lookup_append, result?, List.lookup_cons]
    by_cases hid : id = j.id
    · simp [hid]
    · simp [hid, beq_false_of_ne hid]
  constructor
  case live => exact fun i hi ↦ hc.live i (hstill i hi)
  case left =>
    intro id hlt hnone
    by_cases hid : id = j.id
    · subst hid
      refine ⟨result, ?_, ?_⟩
      · rw [hresult, hc.unresolved _ (Or.inr (hj ▸ Option.some_ne_none _)), if_pos rfl]
        rfl
      · have hlive := hc.live j hm
        rw [hstage] at hlive
        exact hlive
    · have hold : h.job? id = none := (job?_release_of_ne hj (Ne.symm hid) result).symm.trans hnone
      obtain ⟨result', hresult', htold⟩ := hc.left id hlt hold
      refine ⟨result', ?_, htold⟩
      rw [hresult, hresult', Option.some_or]
  case own => exact fun i hi ↦ hc.own i (hstill i hi)
  case same => exact hc.same
  case known => exact hc.known
  case unresolved =>
    intro id hthere
    have hne : id ≠ j.id := by
      rintro rfl
      rcases hthere with hle | hsome
      · exact Nat.not_lt.mpr hle (ho.id_lt j hm)
      · exact hsome (Keyed.get?_erase_self Job.id j.id h.jobs)
    rw [hresult, if_neg hne, Option.or_none]
    refine hc.unresolved id (hthere.imp_right fun hsome ↦ ?_)
    rwa [← job?_release_of_ne hj (Ne.symm hne) result]
  case apart => exact hc.apart

/-- A step of a job is told in the history as far as it is to be. -/
theorem goes (hc : h.Chronicled) (hs : h.Steady) {h' : Harvester σ} (hg : h.Goes h') :
    h'.Chronicled := by
  have ho := hs.orderly
  cases hg with
  | stay => exact hc
  | @enter j periodic hj hstage =>
    refine hc.withJob ho { j with stage := .entered } hj rfl rfl ?_ _ _ _
    rw [hstage]
    rfl
  | announce hj hstage =>
    refine hc.withNote ho hj ?_ fun _ ↦ ?_ <;> rw [hstage] <;> rfl
  | @run j stage hj hfrom hto =>
    have hbefore : j.stage.told = [.started] := JobStage.told_of_rank (by omega) (by omega)
    have hafter : stage.told = [.started] := JobStage.told_of_rank (by omega) (by omega)
    exact hc.withJob ho { j with stage } hj rfl rfl (hafter.trans hbefore.symm) _ _ _
  | breakDown _ hbreaks => exact absurd hbreaks (hs.unbroken _)
  | @forget j periodic result hj hstage =>
    refine hc.withJob ho { j with stage := .forgotten result } hj rfl rfl ?_ _ _ _
    rw [hstage]
    rfl
  | recordEnd hj hstage =>
    refine hc.withNote ho hj ?_ fun hstarted ↦ ?_
    · rw [hstage]
      rfl
    · exact absurd hstarted (JobEvent.ofResult_ne_started _)
  | leave hj hstage => exact hc.release ho hj hstage

/-- Every change is told in the history as far as it is to be. -/
theorem change (hc : h.Chronicled) (hs : h.Steady) {h' : Harvester σ} (hchange : h.Change h') :
    h'.Chronicled := by
  have ho := hs.orderly
  cases hchange with
  | goes hg => exact hc.goes hs hg
  | accept _ haccept => exact hc.accept haccept
  | @cancel j hj => exact hc.withJob ho { j with isCancelled := true } hj rfl rfl rfl _ _ _
  | cancelPeriodic tenant =>
    rcases h.cancelPeriodic_cases tenant with he | ⟨periodic, id, he⟩ <;> rw [he]
    · exact hc
    · unfold Harvester.cancel
      split
      · next j hj =>
        obtain rfl : j.id = id := Keyed.key_of_get? hj
        exact hc.withJob ho { j with isCancelled := true } hj rfl rfl rfl _ _ _
      · exact { hc with }
  | outside => exact { hc with }

/-- A job holds its key as long as its end is not told. -/
theorem held_of_started (hc : h.Chronicled) (ho : h.Orderly) {x : HistoryEntry}
    (hx : x ∈ h.history) (hstarted : ∀ y ∈ h.history, y.job = x.job → y.event = .started) :
    ⟨x.job, x.key⟩ ∈ h.registry.held := by
  cases hjob : h.job? x.job with
  | some j =>
    obtain ⟨hm, hid⟩ := (ho.job?_eq_some_iff _ j).mp hjob
    rw [ho.held, (hc.own j hm x hx hid.symm).1, ← hid]
    exact List.mem_map_of_mem hm
  | none =>
    obtain ⟨result, -, htold⟩ := hc.left x.job (hc.known x hx) hjob
    have hend : JobEvent.ofResult result ∈ eventsOf x.job h.history := by simp [htold]
    obtain ⟨y, hy, hid, hevent⟩ := mem_eventsOf.mp hend
    exact absurd (hevent.symm.trans (hstarted y hy hid)) (JobEvent.ofResult_ne_started result)

end Chronicled

variable {o : Outfit σ} {h : Harvester σ}

/-- What a step of a job adds to the history it adds for a job that holds its key then. -/
theorem Goes.history (ho : h.Orderly) {h' : Harvester σ} (hg : h.Goes h') :
    h'.history = h.history ∨ ∃ x, h'.history = h.history ++ [x] ∧
      ⟨x.job, x.key⟩ ∈ h.registry.held ∧ h'.registry = h.registry := by
  have hholds : ∀ {j : Job σ}, h.job? j.id = some j → j.holding ∈ h.registry.held := by
    intro j hj
    rw [ho.held]
    exact List.mem_map_of_mem ((ho.job?_eq_some_iff _ j).mp hj).1
  cases hg with
  | announce hj => exact Or.inr ⟨_, rfl, hholds hj, rfl⟩
  | recordEnd hj => exact Or.inr ⟨_, rfl, hholds hj, rfl⟩
  | _ => exact Or.inl rfl

/-- What a change adds to the history it adds for a job that holds its key before and after. -/
theorem Change.history (ho : h.Orderly) {h' : Harvester σ} (hchange : h.Change h') :
    h'.history = h.history ∨ ∃ x, h'.history = h.history ++ [x] ∧
      ⟨x.job, x.key⟩ ∈ h.registry.held ∧ h'.registry = h.registry := by
  cases hchange with
  | goes hg => exact hg.history ho
  | accept _ haccept =>
    obtain ⟨-, rfl⟩ := accept_eq haccept
    exact Or.inl rfl
  | cancel => exact Or.inl rfl
  | cancelPeriodic tenant =>
    left
    rcases h.cancelPeriodic_cases tenant with he | ⟨periodic, id, he⟩ <;> rw [he]
    unfold Harvester.cancel
    split <;> rfl
  | outside => exact Or.inl rfl

/-! ## Requests -/

/-- A job is accepted where no job holds a key that conflicts with its key. -/
theorem accept_cases (h : Harvester σ) (ho : h.Orderly) (key : JobKey) (origin : Origin)
    (provider : Option Provider) :
    (∃ e, h.accept key origin provider = .error e) ∧ (∃ j ∈ h.jobs, j.key.Conflicts key) ∨
      (∃ h', h.accept key origin provider = .ok (h.nextJob, h')) ∧
        ¬ ∃ j ∈ h.jobs, j.key.Conflicts key := by
  have hkeys : (∀ k ∈ h.registry.held.map Holding.key, ¬ k.Conflicts key) ↔
      ¬ ∃ j ∈ h.jobs, j.key.Conflicts key := by
    simp [ho.held, Job.holding]
  have hconflict := h.registry.conflict?_eq key
  rw [accept, Registry.acquire]
  by_cases hfree : ∀ k ∈ h.registry.held.map Holding.key, ¬ k.Conflicts key
  · rw [hconflict, if_pos hfree]
    exact Or.inr ⟨⟨_, rfl⟩, hkeys.mp hfree⟩
  · obtain ⟨e, he⟩ : ∃ e, h.registry.conflict? key = some e := by
      rw [hconflict, if_neg hfree]
      split <;> exact ⟨_, rfl⟩
    rw [he]
    exact Or.inl ⟨⟨e, rfl⟩, not_not.mp (mt hkeys.mpr hfree)⟩

/-- How a request for a job is answered: it is refused where its provider is not found or another
job is in the way, and then leaves everything as it is, also where each of its steps leaves what it
did; otherwise the job has the next number, and is entered and announced once it holds its key. -/
structure Answers (o : Outfit σ) (h : Harvester σ) (request : JobRequest) : Prop where
  refused : (∃ e, h.request request = .error e) ↔ h.Lacks request ∨ h.Blocks request
  unchanged : ∀ e, h.request request = .error e → h.turn o (.ask request) = h
  started : ∀ id h', h.request request = .ok (id, h') → id = h.nextJob ∧
    h' = h.through o [.ask request, .job id .enter, .job id .announce]
  refusedInSteps : ∀ e, h.request request = .error e →
    (requestInSteps request).run h = .error e h
  startedInSteps : ∀ id h', h.request request = .ok (id, h') →
    (requestInSteps request).run h = .ok id h'

theorem Orderly.answers (ho : h.Orderly) (o : Outfit σ) (request : JobRequest) :
    h.Answers o request := by
  have hcases : (∃ e, h.grant request = .error e) ∧ (h.Lacks request ∨ h.Blocks request) ∨
      (∃ h', h.grant request = .ok (h.nextJob, h')) ∧ ¬ (h.Lacks request ∨ h.Blocks request) := by
    rcases h.grant_cases request with ⟨he, hlacks⟩ | ⟨hfound, origin, provider, -, hgrant⟩
    · exact Or.inl ⟨he, Or.inl hlacks⟩
    · rw [hgrant]
      rcases h.accept_cases ho request.key origin provider with ⟨he, hblocks⟩ | ⟨hok, hfree⟩
      · exact Or.inl ⟨he, Or.inr hblocks⟩
      · exact Or.inr ⟨hok, not_or.mpr ⟨hfound, hfree⟩⟩
  have hrequest := h.request_eq request
  have hrefused (e : JobError) (he : h.request request = .error e) :
      (requestInSteps request).run h = .error e h := by
    rw [run_requestInSteps, he]
    rfl
  have hstarted (id : Nat) (h' : Harvester σ) (hok : h.request request = .ok (id, h')) :
      (requestInSteps request).run h = .ok id h' := by
    rw [run_requestInSteps, hok]
    rfl
  rcases hcases with ⟨⟨e, he⟩, hwhy⟩ | ⟨⟨h', hok⟩, hnot⟩
  · rw [he] at hrequest
    refine ⟨iff_of_true ⟨e, hrequest⟩ hwhy, fun _ _ ↦ by rw [turn, he], fun id h' hstart ↦ ?_,
      hrefused, hstarted⟩
    rw [hrequest] at hstart
    contradiction
  · rw [hok] at hrequest
    refine ⟨iff_of_false ?_ hnot, fun e he ↦ ?_, fun id h'' hstart ↦ ?_, hrefused, hstarted⟩
    · rintro ⟨e, he⟩
      rw [hrequest] at he
      contradiction
    · rw [hrequest] at he
      contradiction
    · rw [hrequest] at hstart
      obtain ⟨rfl, rfl⟩ := Prod.mk.inj (Except.ok.inj hstart)
      refine ⟨rfl, ?_⟩
      rw [through, List.foldl_cons, turn, hok]
      rfl

section Successors

/-- What is harvested with: sources that refuse everything. -/
private def refusing : Outfit Unit :=
  { settings := {}, lastCompleted := .january 2021, create := fun _ ↦ .ok ()
    fetch := fun _ _ _ ↦ (.refused (.failure "no"), ()) }

/-- A manual job from its request to its end, and a periodic one of the same tenant after it. -/
private def twoJobs : List (Turn Unit) :=
  [.ask (.whole "a" .manual), .job 0 .enter, .job 0 .announce, .job 0 .begin, .job 0 .finish,
    .job 0 .forget, .job 0 .recordEnd, .job 0 .leave, .ask (.whole "a" .periodic), .job 1 .enter,
    .job 1 .announce]

private def afterTwoJobs : Harvester Unit :=
  (idle ⟨[]⟩ [] { archive := .memory .empty } ()).through refusing twoJobs

end Successors

end Harvester
end UsageReports
