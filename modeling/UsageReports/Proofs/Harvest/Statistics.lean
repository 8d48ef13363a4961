import UsageReports.Proofs.Harvest.Answers
import UsageReports.Proofs.Harvest.Calls
import UsageReports.Proofs.Harvest.Writes

/-!
# What the statistics of a run tell

Once a run has come to its end, each number among its statistics is the number of records, answers
or planned ranges that it stands for. All are kept by every step together with the calls that were
answered so far.
-/

namespace UsageReports

/-! ### The limit -/

namespace Run

@[simp] theorem measures_emit (r : Run) (records : List Record) :
    (r.emit records).measures = r.measures := by
  unfold emit
  split
  · rfl
  · split <;> rfl

section Throttled

variable (r : Run) (task : FetchTask)

/-- How often a run has noted that its limit fell. -/
def throttled : Nat := r.measures.count (.throttled r.provider)

theorem measures_reject (reason : String) :
    (r.reject task reason).measures =
      r.measures ++ [.fetched r.provider "invalid_report"] := by
  unfold reject
  split
  · exact measures_emit _ _
  · rfl

/-- Of what is noted of an answer only one thing is about the limit. -/
theorem count_throttled_take (result : Except FetchError (List Record)) :
    (r.take task result).measures.count (.throttled r.provider) = r.throttled +
      match result with
      | .error .rateLimited => if r.limit.canLower then 1 else 0
      | _ => 0 := by
  cases result with
  | ok returned => simp [take, accept, measure, throttled]
  | error e =>
    cases e with
    | invalidReport reason => simp [take, measures_reject, throttled]
    | failure reason => simp [take, giveUp, measure, throttled]
    | rateLimited =>
      have hslower : r.slower.measures.count (.throttled r.provider) =
          r.throttled + if r.limit.canLower then 1 else 0 := by
        unfold slower
        split <;> simp [throttled]
      change (r.slower.askAgain _).measures.count _ = _
      rw [← hslower, askAgain]
      split
      · rfl
      · simp [measures_reject]

end Throttled

/-- The limits in force along a course, from its start. -/
def limits : Run → List Arrival → List Nat
  | r, [] => [r.limit.current]
  | r, a :: rest => r.limit.current :: (r.step a).limits rest

theorem current_step (r : Run) (a : Arrival) :
    (r.step a).limit.current = if r.isSlowedBy a then 1 else r.limit.current := by
  rw [limit_step]
  split <;> rfl

/-- A limit of one stays. -/
theorem limits_of_current_eq_one {r : Run} (h : r.limit.current = 1) (arrivals : List Arrival) :
    r.limits arrivals = List.replicate (arrivals.length + 1) 1 := by
  induction arrivals generalizing r with
  | nil => rw [limits, h]; rfl
  | cons a rest ih =>
    have hnext : (r.step a).limit.current = 1 := by
      rw [current_step, h, ite_self]
    rw [limits, h, ih hnext]
    rfl

/-- The limit stays what it is until it falls to one, where it stays. -/
theorem limits_eq (r : Run) (arrivals : List Arrival) :
    ∃ n k, r.limits arrivals = List.replicate n r.limit.current ++ List.replicate k 1 := by
  induction arrivals generalizing r with
  | nil => exact ⟨1, 0, rfl⟩
  | cons a rest ih =>
    cases hslow : r.isSlowedBy a with
    | true =>
      have hnext : (r.step a).limit.current = 1 := by rw [current_step, if_pos hslow]
      exact ⟨1, rest.length + 1, by rw [limits, limits_of_current_eq_one hnext]; rfl⟩
    | false =>
      have hnext : (r.step a).limit.current = r.limit.current := by
        rw [current_step, hslow, if_neg Bool.false_ne_true]
      obtain ⟨n, k, heq⟩ := ih (r.step a)
      exact ⟨n + 1, k, by rw [limits, heq, hnext, List.replicate_succ, List.cons_append]⟩

/-- How a run stands with its limit, which was `most` at first, where there was no time so often:
it fell at most once. -/
structure Paced (most noTimes : Nat) (r : Run) : Prop where
  current : r.limit.current = if noTimes = 0 then most else 1
  throttled : r.throttled = if noTimes ≠ 0 ∧ 1 < most then 1 else 0

variable {settings : RunSettings} {provider : String} {r : Run} {most noTimes : Nat}

theorem paced_start (settings : RunSettings) (provider : String) (plan : List Range) :
    (start settings provider plan).Paced (max 1 settings.maxConcurrency) 0 :=
  ⟨Nat.max_comm _ _, by simp [Run.throttled, start, fill, ofPlan]⟩

/-- The limit falls when there is no time, and that is noted if it was more than one. -/
theorem throttled_step (h : r.Underway settings provider) (a : Arrival) :
    (r.step a).throttled = r.throttled +
      if r.isSlowedBy a ∧ 1 < r.limit.current then 1 else 0 := by
  have hprovider : (r.step a).provider = r.provider :=
    (h.step a).provider.trans h.provider.symm
  change (r.settle a.place a.reply).measures.count (.throttled (r.step a).provider) = _
  rw [hprovider, settle, isSlowedBy]
  cases htask : r.inFlight[a.place]? with
  | none => simp [throttled]
  | some task =>
    have hcount := count_throttled_take { r with inFlight := r.inFlight.eraseIdx a.place } task
      a.reply.result
    refine hcount.trans ?_
    cases hreply : a.reply with
    | refused cause =>
      cases cause <;> simp [Reply.result, Reply.isSlowing, throttled, Limit.canLower]
    | records returned => simp [Reply.result, Reply.isSlowing, throttled]
    | panicked text => simp [Reply.result, Reply.isSlowing, throttled]
    | died => simp [Reply.result, Reply.isSlowing, throttled]

theorem Paced.step (h : r.Paced most noTimes) (hu : r.Underway settings provider) (a : Arrival) :
    (r.step a).Paced most (noTimes + if r.isSlowedBy a then 1 else 0) := by
  constructor
  · rw [current_step, h.current]
    cases r.isSlowedBy a <;> simp
  · rw [throttled_step hu, h.throttled, h.current]
    cases r.isSlowedBy a with
    | false => simp
    | true =>
      by_cases hzero : noTimes = 0
      · simp [hzero]
      · simp [hzero]

end Run
/-! ### The counts -/

namespace Entry

/-- Whether an entry notes that something was narrowed. -/
def isNarrowed (x : Entry) : Bool := !x.isAsked

theorem countP_isNarrowed_notes (e : Errand) (v : Verdict) :
    (e.notes v).countP isNarrowed = (Tally.ofVerdict v).narrowed := by
  cases v <;> rfl

theorem filter_isAsked_notes (e : Errand) (v : Verdict) : (e.notes v).filter isAsked = [] := by
  cases v <;> rfl

end Entry

namespace Inquiry

/-- The entry that notes that a call was made. -/
def entry (c : Inquiry) : Entry := .asked c.errand c.task.range

theorem fetched_ofVerdict_refused (task : FetchTask) (reason : String) :
    (Tally.ofVerdict (task.refused reason)).fetched = 0 := by
  unfold FetchTask.refused
  split <;> rfl

theorem fetched_ofVerdict (limit : Nat) (c : Inquiry) :
    (Tally.ofVerdict (c.verdict limit)).fetched = if c.kind = .brought then 1 else 0 := by
  obtain ⟨e, task, reply⟩ := c
  cases reply with
  | records returned => rfl
  | panicked text => rfl
  | died => rfl
  | refused cause =>
    cases cause with
    | rateLimited =>
      simp only [verdict, Reply.result, FetchTask.verdict]
      split
      · rfl
      · exact fetched_ofVerdict_refused _ _
    | invalidReport reason => exact fetched_ofVerdict_refused _ _
    | failure reason => rfl

theorem rateLimited_ofResult (c : Inquiry) :
    (Tally.ofResult c.reply.result).rateLimited = if c.kind = .noTime then 1 else 0 := by
  obtain ⟨e, task, reply⟩ := c
  cases reply with
  | records returned => rfl
  | panicked text => rfl
  | died => rfl
  | refused cause => cases cause <;> rfl

end Inquiry

namespace Trace

/-- Whether the counts of a trace are those of the calls that were answered. -/
structure Counts (calls : List Inquiry) (t : Trace) : Prop where
  fetched : t.run.tally.fetched = calls.countP (·.kind = .brought)
  rateLimited : t.run.tally.rateLimited = calls.countP (·.kind = .noTime)
  narrowed : t.run.tally.narrowed = t.log.countP Entry.isNarrowed
  /-- What was asked for has an answer or is in flight. -/
  asked : (t.log.filter Entry.isAsked).Perm
    (calls.map Inquiry.entry ++ t.flying.map fun p ↦ .asked p.1 p.2.range)

variable {s : RunSettings} {provider : String} {plan : List Range} {calls : List Inquiry}
  {t next : Trace} {c : Inquiry}

theorem Counts.fill (h : t.Counts calls) : t.fill.Counts calls := by
  let launched := (t.waiting.take t.run.room).map fun p ↦ Entry.asked p.1 p.2.range
  have hlog : t.fill.log = t.log ++ launched := rfl
  have hall : ∀ x ∈ launched, x.isAsked = true := by
    intro x hx
    obtain ⟨p, -, rfl⟩ := List.mem_map.mp hx
    rfl
  have hnone : launched.countP Entry.isNarrowed = 0 := by
    rw [List.countP_eq_zero]
    intro x hx
    rw [Entry.isNarrowed, hall x hx]
    exact Bool.false_ne_true
  refine ⟨h.fetched, h.rateLimited, ?_, ?_⟩
  · rw [hlog, List.countP_append, hnone]
    exact h.narrowed
  · rw [hlog, List.filter_append, List.filter_eq_self.mpr hall]
    have hflying : t.fill.flying.map (fun p ↦ Entry.asked p.1 p.2.range) =
        (t.flying.map fun p ↦ Entry.asked p.1 p.2.range) ++ launched :=
      List.map_append
    rw [hflying, ← List.append_assoc]
    exact h.asked.append_right launched

/-- Taking in an answer counts its call. -/
theorem Counts.hears (h : t.Counts calls) (hc : t.Hears s c next) : next.Counts (calls ++ [c]) := by
  refine ⟨?_, ?_, ?_, ?_⟩
  · simp [hc.tally, h.fetched, c.fetched_ofVerdict, Tally.ofRecords, List.countP_singleton]
  · simp [hc.tally, h.rateLimited, c.rateLimited_ofResult, Tally.ofRecords, List.countP_singleton]
  · simp [hc.tally, h.narrowed, hc.log, Entry.countP_isNarrowed_notes, Tally.ofRecords]
  · rw [hc.log, List.filter_append, Entry.filter_isAsked_notes, List.append_nil, List.map_append,
      List.append_assoc]
    exact h.asked.trans ((hc.flying.map _).append_left _)

/-- What holds of a trace once these calls were answered, if its records are taken. -/
structure Tells (s : RunSettings) (provider : String) (plan : List Range) (calls : List Inquiry)
    (t : Trace) : Prop where
  sound : t.Sound s plan
  underway : t.run.Underway s provider
  stands : ∀ i range, plan[i]? = some range → t.Stands s calls i range
  paced : t.run.Paced (max 1 s.maxConcurrency) (calls.countP (·.kind = .noTime))
  counts : t.Counts calls

theorem tells_start (s : RunSettings) (provider : String) (plan : List Range) :
    (start s provider plan).Tells s provider plan [] := by
  have hcounts : (ofPlan s provider plan).Counts [] := ⟨rfl, rfl, rfl, .rfl⟩
  exact ⟨sound_start s provider plan, Run.underway_start s provider plan,
    fun _ _ hrange ↦ stands_start provider hrange, Run.paced_start s provider plan, hcounts.fill⟩

/-- The limit falls exactly when a call is answered that there is no time. -/
theorem Sound.isSlowedBy_eq (h : t.Sound s plan) (a : Run.Arrival) :
    (if t.run.isSlowedBy a then 1 else 0) = (t.inquiry? a).toList.countP (·.kind = .noTime) := by
  rw [Run.isSlowedBy, ← h.inFlight, List.getElem?_map, inquiry?, Reply.isSlowing_eq]
  cases t.flying[a.place]? with
  | none => rfl
  | some p => exact (List.countP_singleton ..).symm

theorem run_step_reply (t : Trace) (a : Run.Arrival) : (t.step (.reply a)).run = t.run.step a :=
  congrArg Run.fill (t.run_settle a)

theorem Tells.step (h : t.Tells s provider plan calls) (a : Run.Arrival) :
    (t.step (.reply a)).Tells s provider plan (calls ++ (t.inquiry? a).toList) := by
  have hr := h.underway.receiving
  refine ⟨h.sound.step (.reply a), ?_, fun i range hrange ↦ ?_, ?_, ?_⟩
  · rw [run_step_reply]
    exact h.underway.step a
  · exact (h.stands i range hrange).step h.sound hr a
  · rw [run_step_reply, List.countP_append, ← h.sound.isSlowedBy_eq a]
    exact h.paced.step h.underway a
  · apply Counts.fill
    rcases h.sound.settle_cases hr a with ⟨hnone, heq⟩ | ⟨c, hsome, hc⟩
    · rw [hnone, heq, Option.toList_none, List.append_nil]
      exact h.counts
    · rw [hsome]
      exact h.counts.hears hc

theorem Tells.after (h : t.Tells s provider plan calls) (arrivals : List Run.Arrival) :
    (t.after (arrivals.map .reply)).Tells s provider plan (calls ++ t.inquiries arrivals) := by
  induction arrivals generalizing t calls with
  | nil =>
    rw [inquiries, List.append_nil]
    exact h
  | cons a rest ih =>
    rw [inquiries, ← List.append_assoc]
    exact ih (h.step a)

/-! ### The end of a run -/

/-- The narrowings that are noted are those of planned ranges, each noted once. -/
theorem Sound.countP_isNarrowed (h : t.Sound s plan) :
    t.log.countP Entry.isNarrowed =
      plan.zipIdx.countP fun (_, i) ↦ .narrowed ⟨i, none⟩ ∈ t.log := by
  have hlog : (t.log.filter Entry.isNarrowed).Nodup := by
    rw [List.nodup_iff_count_le_one]
    intro x
    cases x with
    | asked e range =>
      have hnot : .asked e range ∉ t.log.filter Entry.isNarrowed :=
        fun hx ↦ absurd (List.mem_filter.mp hx).2 Bool.false_ne_true
      rw [List.count_eq_zero_of_not_mem hnot]
      exact Nat.zero_le 1
    | narrowed e => exact (List.filter_sublist.count_le _).trans (h.count_narrowed_le e)
  have hplan : ((plan.zipIdx.filter fun (_, i) ↦ .narrowed ⟨i, none⟩ ∈ t.log).map fun (_, i) ↦
      Entry.narrowed ⟨i, none⟩).Nodup := by
    have hplaces : (plan.zipIdx.map Prod.snd).Nodup := by
      rw [List.zipIdx_map_snd]
      exact List.nodup_range'
    have hentries := hplaces.map (f := fun i ↦ Entry.narrowed ⟨i, none⟩) fun i j hij ↦ by
      simpa using hij
    rw [List.map_map] at hentries
    exact hentries.sublist (List.filter_sublist.map _)
  have hperm := (List.perm_ext_iff_of_nodup hlog hplan).mpr ?_
  · have hlength := hperm.length_eq
    rw [List.length_map, ← List.countP_eq_length_filter, ← List.countP_eq_length_filter] at hlength
    exact hlength
  · intro x
    rw [List.mem_filter, List.mem_map]
    constructor
    · rintro ⟨hx, hnarrowed⟩
      cases x with
      | asked e range => exact absurd hnarrowed Bool.false_ne_true
      | narrowed e =>
        obtain ⟨hmonth, range, hrange, -⟩ := Entry.not_single_of_mem_granted (h.mem_granted hx)
        obtain ⟨i, month⟩ := e
        obtain rfl : month = none := hmonth
        refine ⟨(range, i), List.mem_filter.mpr ⟨?_, decide_eq_true hx⟩, rfl⟩
        exact List.mk_mem_zipIdx_iff_getElem?.mpr hrange
    · rintro ⟨⟨range, i⟩, hp, rfl⟩
      exact ⟨of_decide_eq_true (List.mem_filter.mp hp).2, rfl⟩

/-- The calls by the kinds of their answers. -/
theorem length_eq_countP_kinds (calls : List Inquiry) :
    calls.length = calls.countP (·.kind = .brought) + calls.countP (·.kind = .noTime) +
      calls.countP (fun c ↦ c.kind = .refused ∨ c.kind = .failed) := by
  induction calls with
  | nil => rfl
  | cons c rest ih =>
    simp only [List.length_cons, List.countP_cons, ih, decide_eq_true_eq]
    cases c.kind <;> simp <;> omega

theorem run_after_reply (t : Trace) (arrivals : List Run.Arrival) :
    (t.after (arrivals.map .reply)).run = t.run.after arrivals := by
  induction arrivals generalizing t with
  | nil => rfl
  | cons a rest ih => rw [List.map_cons, after_cons, ih, run_step_reply, Run.after_cons]

/-- What is asked for are the ranges of the entries that note so. -/
theorem asked_eq (t : Trace) : t.asked = (t.log.filter Entry.isAsked).filterMap Entry.range? := by
  rw [asked, List.filterMap_filter]
  apply List.filterMap_congr
  intro x _
  cases x <;> rfl

section Ended

variable (h : t.Tells s provider plan calls) (hend : t.run.inFlight = [])
include h hend

theorem Tells.flying_eq_nil : t.flying = [] := by
  rw [← List.map_eq_nil_iff, h.sound.inFlight, hend]

theorem Tells.waiting_eq_nil : t.waiting = [] := by
  rw [← List.map_eq_nil_iff, h.sound.pending, h.underway.pending_eq_nil hend]

/-- In the end every call has its answer. -/
theorem Tells.entries_perm : (t.log.filter Entry.isAsked).Perm (calls.map Inquiry.entry) := by
  have hasked := h.counts.asked
  rw [h.flying_eq_nil hend, List.map_nil, List.append_nil] at hasked
  exact hasked

theorem Tells.ranges_perm : (calls.map (·.task.range)).Perm t.asked := by
  have hranges := (h.entries_perm hend).filterMap Entry.range?
  rw [← asked_eq, List.filterMap_map] at hranges
  have hcalls : calls.filterMap (Entry.range? ∘ Inquiry.entry) = calls.map (·.task.range) :=
    congrFun List.filterMap_eq_map' calls
  rw [hcalls] at hranges
  exact hranges.symm

/-- Calls are made for planned ranges and for the months of such. -/
theorem Tells.asksFor (hc : c ∈ calls) : c.errand.AsksFor plan c.task.range := by
  have hentry := (h.entries_perm hend).symm.subset (List.mem_map_of_mem hc)
  exact Entry.asksFor_of_mem_granted (h.sound.mem_granted (List.mem_filter.mp hentry).1)

/-- In the end a planned range is narrowed if it has several months, and the last answer refused it
or there was no time as often as attempts allow. -/
theorem Tells.narrowed_iff {i : Nat} {range : Range} (hrange : plan[i]? = some range) :
    .narrowed ⟨i, none⟩ ∈ t.log ↔ range.first ≠ range.last ∧
      ((Inquiry.answersTo ⟨i, none⟩ calls).getLast? = some .refused ∨
        (Inquiry.answersTo ⟨i, none⟩ calls).count .noTime = s.attempts) := by
  cases h.stands i range hrange with
  | done _ narrowed => exact narrowed
  | asked k _ tasks _ _ =>
    rw [tasksOn, h.waiting_eq_nil hend, h.flying_eq_nil hend] at tasks
    contradiction

theorem Tells.narrowed_eq : t.run.tally.narrowed =
    plan.zipIdx.countP fun (range, i) ↦ range.first ≠ range.last ∧
      ((Inquiry.answersTo ⟨i, none⟩ calls).getLast? = some .refused ∨
        (Inquiry.answersTo ⟨i, none⟩ calls).count .noTime = s.attempts) := by
  rw [h.counts.narrowed, h.sound.countP_isNarrowed]
  apply List.countP_congr
  rintro ⟨range, i⟩ hp
  simpa only [decide_eq_true_eq] using
    h.narrowed_iff hend (List.mk_mem_zipIdx_iff_getElem?.mp hp)

end Ended

/-- Whatever the plan, the answers and their order, the statistics of a run whose records are taken
tell in the end what happened: how many records of each sort were emitted, how many calls were
answered in each way, and how many planned ranges of several months were narrowed, which are those
whose last answer refused them and those for which there was no time as often as attempts allow. The
limit is what it was at first, or one once there was no time; it falls at most once. The statistics
of a provider run are those of such a run, and its calls are the calls of it. -/
theorem statistics_of_ended (s : RunSettings) (provider : String) (plan : List Range) :
    (∀ arrivals : List Run.Arrival,
      let t := (start s provider plan).after (arrivals.map .reply)
      let calls := (start s provider plan).inquiries arrivals
      let answers i := Inquiry.answersTo ⟨i, none⟩ calls
      let stats := t.run.tally
      t.run.inFlight = [] →
        (stats.placeholders = t.run.emitted.countP (·.failure.isSome) ∧
          stats.successes = t.run.emitted.countP (·.failure.isNone)) ∧
        stats.fetched = calls.countP (·.kind = .brought) ∧
        stats.rateLimited = calls.countP (·.kind = .noTime) ∧
        stats.narrowed = (plan.zipIdx.countP fun (range, i) ↦ range.first ≠ range.last ∧
          ((answers i).getLast? = some .refused ∨ (answers i).count .noTime = s.attempts)) ∧
        ((∀ c ∈ calls, c.errand.AsksFor plan c.task.range) ∧
          (calls.map (·.task.range)).Perm t.asked ∧
          t.asked.length = stats.fetched + stats.rateLimited +
            calls.countP fun c ↦ c.kind = .refused ∨ c.kind = .failed) ∧
        t.run.limit.current = (if stats.rateLimited = 0 then max 1 s.maxConcurrency else 1) ∧
        (∃ n k, (Run.start s provider plan).limits arrivals =
          List.replicate n (max 1 s.maxConcurrency) ++ List.replicate k 1) ∧
        t.run.measures.count (.throttled provider) ≤ 1) ∧
      ∀ {σ : Type} (o : Outfit σ) (p : Provider) (records : RecordStore) (source source' : σ),
        o.settings.run = s → p.id = provider →
          let f := o.finish (o.launch p plan source) source'
          let run := (o.conclude f records).1
          ∃ arrivals : List Run.Arrival,
            let t := (start s provider plan).after (arrivals.map .reply)
            t.run.inFlight = [] ∧ run.tally = t.run.tally ∧ run.limit = t.run.limit.current ∧
              f.timeline.run.emitted = t.run.emitted ∧
              (f.timeline.calls.map Call.range).Perm t.asked := by
  constructor
  · intro arrivals t calls answers stats hend
    have h : t.Tells s provider plan calls := (tells_start s provider plan).after arrivals
    have htallied : t.run.Tallied := by
      rw [run_after_reply]
      exact (Run.tallied_start s provider plan).after (Run.underway_start s provider plan) arrivals
    have hperm := h.ranges_perm hend
    refine ⟨⟨htallied.placeholders, ?_⟩, h.counts.fetched, h.counts.rateLimited,
      h.narrowed_eq hend, ⟨fun c hc ↦ h.asksFor hend hc, hperm, ?_⟩, ?_, ?_, ?_⟩
    · rw [htallied.successes]
      simp [Record.isFailure]
    · rw [← hperm.length_eq, List.length_map, length_eq_countP_kinds, ← h.counts.fetched,
        ← h.counts.rateLimited]
    · rw [h.paced.current, h.counts.rateLimited]
    · obtain ⟨n, k, heq⟩ := (Run.start s provider plan).limits_eq arrivals
      rw [(Run.paced_start s provider plan).current, if_pos rfl] at heq
      exact ⟨n, k, heq⟩
    · have hthrottled := h.paced.throttled
      rw [Run.throttled, h.underway.provider] at hthrottled
      rw [hthrottled]
      split <;> omega
  · rintro σ o p records source source' rfl rfl f run
    obtain ⟨arrivals, hrun, hover, hcalls⟩ := o.trace_of_finish p plan source source'
    refine ⟨arrivals, ?_, ?_, ?_, ?_, hcalls⟩
    · rw [hrun]
      simpa using (Bool.and_eq_true_iff.mp hover).2
    · rw [hrun]
      rfl
    · rw [hrun]
      rfl
    · rw [hrun]

/-- Of two ranges of two months there is twice no time for the one, and the other is refused. Of the
four months one is brought, one is missing from what was brought, one breaks down and one is
refused. -/
theorem statistics_of_ended_two_narrowed :
    let january : Month := .january 2020
    let s : RunSettings := { maxConcurrency := 2, rateLimitAttempts := 2 }
    let plan : List Range := [⟨"DR", january, january.succ⟩, ⟨"TR", january, january.succ⟩]
    let arrivals : List Run.Arrival :=
      [.refused .rateLimited, .refused (.invalidReport "no"), .refused .rateLimited, .records [],
        .panicked none, .records [.success "p" "DR" january .null],
        .refused (.invalidReport "no")].map (⟨0, ·⟩)
    let t := (start s "p" plan).after (arrivals.map .reply)
    let calls := (start s "p" plan).inquiries arrivals
    t.run.inFlight = [] ∧
      t.run.tally = ⟨2, 1, 3, 2, 2⟩ ∧ t.run.limit.current = 1 ∧
      calls.countP (·.kind = .brought) = 2 ∧
      (plan.zipIdx.countP fun (range, i) ↦ range.first ≠ range.last ∧
        ((Inquiry.answersTo ⟨i, none⟩ calls).getLast? = some .refused ∨
          (Inquiry.answersTo ⟨i, none⟩ calls).count .noTime = s.attempts)) = 2 := by
  intro january s plan arrivals t calls
  have hend : t.run.inFlight = [] := by decide
  obtain ⟨-, hfetched, -, hnarrowed, -, -⟩ := (statistics_of_ended s "p" plan).1 arrivals hend
  have htally : t.run.tally = ⟨2, 1, 3, 2, 2⟩ := by decide
  rw [htally] at hfetched hnarrowed
  exact ⟨hend, htally, by decide, hfetched.symm, hnarrowed.symm⟩

end Trace
end UsageReports
