import UsageReports.Proofs.Harvest.Trace

/-!
# The calls of a run

A run in time calls its source once for everything that it launches. So its calls are bounded as
the errands of its trace are, and whatever the source answers the run comes to its end.
-/

namespace UsageReports

namespace Timeline

variable {σ : Type}

/-- The ranges of some fetches for which the source was not called yet. -/
def uncalled (fetches : List (FetchTask × Flight)) : List Range :=
  (fetches.filter (·.2.isWaiting)).map (·.1.range)

/-- The ranges for which the source was called, and those for which it is still to be called. -/
def sought (t : Timeline σ) : List Range :=
  t.calls.map Call.range ++ uncalled (t.run.inFlight.zip t.flights)

theorem uncalled_cons (task : FetchTask) (flight : Flight) (rest : List (FetchTask × Flight)) :
    uncalled ((task, flight) :: rest) =
      if flight.isWaiting then task.range :: uncalled rest else uncalled rest := by
  unfold uncalled
  rw [List.filter_cons]
  split <;> rfl

theorem uncalled_append (fetches more : List (FetchTask × Flight)) :
    uncalled (fetches ++ more) = uncalled fetches ++ uncalled more := by
  rw [uncalled, List.filter_append, List.map_append]
  rfl

/-- For what was just launched the source is still to be called. -/
theorem uncalled_launched (due : FetchTask → Nat) (tasks : List FetchTask) :
    uncalled (tasks.zip (tasks.map fun task ↦ ⟨due task, none⟩)) = tasks.map FetchTask.range := by
  induction tasks with
  | nil => rfl
  | cons task rest ih =>
    rw [List.map_cons, List.zip_cons_cons, uncalled_cons, ih]
    rfl

/-- A fetch that has its reply was called. -/
theorem uncalled_eraseIdx {tasks : List FetchTask} {flights : List Flight} {i : Nat}
    {flight : Flight} (hflight : flights[i]? = some flight) (h : flight.isWaiting = false) :
    uncalled ((tasks.eraseIdx i).zip (flights.eraseIdx i)) = uncalled (tasks.zip flights) := by
  induction tasks generalizing flights i with
  | nil => rfl
  | cons task tasks ih =>
    cases flights with
    | nil => contradiction
    | cons first flights =>
      cases i with
      | zero =>
        obtain rfl : first = flight := Option.some.inj hflight
        rw [List.zip_cons_cons, uncalled_cons, if_neg (Bool.not_eq_true _ ▸ h)]
        rfl
      | succ i =>
        have hrest : flights[i]? = some flight := hflight
        rw [List.eraseIdx_cons_succ, List.eraseIdx_cons_succ, List.zip_cons_cons,
          List.zip_cons_cons, uncalled_cons, uncalled_cons, ih hrest]

variable {fetch : σ → Range → Reply × σ} {t : Timeline σ}

/-- What is launched is still to be called. -/
theorem sought_launch (h : t.Sound fetch) :
    t.launch.sought = t.sought ++ (t.run.pending.take t.run.room).map FetchTask.range := by
  have hlaunched : t.run.fill.inFlight.drop t.run.inFlight.length =
      t.run.pending.take t.run.room := List.drop_left
  rw [sought, launch, hlaunched, sought, List.append_assoc]
  change _ ++ uncalled ((t.run.inFlight ++ t.run.pending.take t.run.room).zip _) = _
  rw [List.zip_append h.length_eq, uncalled_append, uncalled_launched]

/-- The source is called for what waits, and then waits no more. -/
theorem callEach_perm {tasks : List FetchTask} {flights : List Flight} (now : Nat) (source : σ)
    (h : tasks.length = flights.length) :
    ((callEach fetch now (tasks.zip flights) source).2.1.map Call.range ++
        uncalled (tasks.zip (callEach fetch now (tasks.zip flights) source).1)).Perm
      (uncalled (tasks.zip flights)) := by
  induction tasks generalizing flights source with
  | nil => exact .rfl
  | cons task tasks ih =>
    cases flights with
    | nil => contradiction
    | cons flight flights =>
      have hlen := Nat.succ.inj h
      rw [List.zip_cons_cons, callEach, uncalled_cons]
      by_cases hdue : (flight.isWaiting && flight.due ≤ now) = true
      · have hwaiting := (Bool.and_eq_true_iff.mp hdue).1
        simp only [if_pos hdue, if_pos hwaiting, List.zip_cons_cons]
        exact (ih (fetch source task.range).2 hlen).cons task.range
      · simp only [if_neg hdue, List.zip_cons_cons, uncalled_cons]
        split
        · exact List.perm_middle.trans ((ih source hlen).cons task.range)
        · exact ih source hlen

theorem sought_callNext (h : t.Sound fetch) : (t.callNext fetch).sought.Perm t.sought := by
  unfold callNext
  split
  · exact .rfl
  · next due _ =>
    rw [sought, List.map_append, List.append_assoc]
    exact (callEach_perm (max t.now due) t.source h.length_eq).append_left _

theorem sought_await (h : t.Sound fetch) : (t.await fetch).sought.Perm t.sought := by
  unfold await
  split
  · exact .rfl
  · exact sought_callNext h

/-- Taking in a reply neither calls nor launches anything. -/
theorem sought_settle (hr : t.run.receiving = true) (h : t.Sound fetch) {i : Nat} {reply : Reply}
    (hi : i < t.run.inFlight.length) {flight : Flight} (hflight : t.flights[i]? = some flight)
    (hreply : flight.reply = some reply) : (t.settle i reply).sought = t.sought := by
  have hin : (t.run.settle i reply).inFlight = t.run.inFlight.eraseIdx i :=
    (Run.takes_settle hr (List.getElem?_eq_getElem hi) reply).inFlight
  have hlen : (t.run.inFlight.eraseIdx i).length = (t.flights.eraseIdx i).length := by
    rw [List.length_eraseIdx, List.length_eraseIdx, h.length_eq]
  have hcalled : flight.isWaiting = false := by
    rw [Flight.isWaiting, hreply]
    rfl
  rw [sought, settle]
  dsimp only
  rw [hin, hlen, List.take_length, uncalled_eraseIdx hflight hcalled]
  rfl

/-- Whether a run in time goes the way of a trace, which has asked for what the source was called
for and is still to be called for. -/
structure TracedBy (t : Timeline σ) (c : Trace) : Prop where
  run : c.run = t.run
  sought : t.sought.Perm c.asked

variable {s : RunSettings} {provider : String} {plan : List Range} {c : Trace}

theorem TracedBy.launch (h : t.TracedBy c) (ht : t.Sound fetch)
    (hc : c.waiting.map Prod.snd = c.run.pending) : t.launch.TracedBy c.fill := by
  have hlaunched : (c.waiting.take c.run.room).map (fun p ↦ p.2.range) =
      (t.run.pending.take t.run.room).map FetchTask.range := by
    rw [← h.run, ← hc, ← List.map_take, List.map_map]
    rfl
  refine ⟨congrArg Run.fill h.run, ?_⟩
  rw [sought_launch ht, c.asked_fill, hlaunched]
  exact h.sought.append_right _

theorem TracedBy.await (h : t.TracedBy c) (ht : t.Sound fetch) : (t.await fetch).TracedBy c :=
  ⟨h.run.trans (run_await fetch t).symm, (sought_await ht).trans h.sought⟩

theorem TracedBy.settle (h : t.TracedBy c) (hr : t.run.receiving = true) (ht : t.Sound fetch)
    {i : Nat} {reply : Reply} (hi : i < t.run.inFlight.length)
    (hreplied : t.replied? = some (i, reply)) :
    (t.settle i reply).TracedBy (c.settle ⟨i, reply⟩) := by
  obtain ⟨flight, hflight, hreply⟩ := getElem?_of_replied hreplied
  refine ⟨?_, ?_⟩
  · rw [Trace.run_settle, h.run]
    rfl
  · rw [sought_settle hr ht hi hflight hreply, Trace.asked_settle]
    exact h.sought

/-- To its end a run in time goes the way of a trace. -/
theorem exists_tracedBy_finish (hu : t.run.Underway s provider) (ht : t.Sound fetch) :
    ∀ c : Trace, c.Sound s plan → t.TracedBy c →
      ∃ arrivals : List Run.Arrival, (t.finish fetch).TracedBy (c.after (arrivals.map .reply)) := by
  fun_induction Timeline.finish fetch t with
  | case1 t waited hnone =>
    intro c _ h
    exact ⟨[], h.await ht⟩
  | case2 t waited i reply hsome hi ih =>
    intro c hc h
    have hu : waited.run.Underway s provider := run_await fetch t ▸ hu
    have hwaited : waited.TracedBy c := h.await ht
    have ht : waited.Sound fetch := sound_await ht
    have hsettled : (waited.settle i reply).Sound fetch := sound_settle hu ht hi reply
    have hstep := (hwaited.settle hu.receiving ht hi hsome).launch hsettled
      (hc.settle ⟨i, reply⟩).pending
    obtain ⟨arrivals, hend⟩ := ih (hu.step ⟨i, reply⟩) (sound_launch hsettled) _
      (hc.step (.reply ⟨i, reply⟩)) hstep
    exact ⟨⟨i, reply⟩ :: arrivals, hend⟩
  | case3 t waited i reply hsome hi =>
    intro c _ h
    exact ⟨[], h.await ht⟩

theorem TracedBy.callAll (h : t.TracedBy c) (ht : t.Sound fetch) :
    (t.callAll fetch).TracedBy c := by
  unfold Timeline.callAll
  generalize t.flights = flights
  induction flights generalizing t with
  | nil => exact h
  | cons flight flights ih =>
    refine ih ⟨?_, (sought_callNext ht).trans h.sought⟩ (sound_callNext ht)
    rw [run_callNext]
    exact h.run

/-- A run in time that has come to its end has called its source for all that it asked for. -/
theorem TracedBy.perm_calls (h : t.TracedBy c) (hf : t.run.inFlight = []) :
    (t.calls.map Call.range).Perm c.asked := by
  have hsought := h.sought
  rw [Timeline.sought, hf, List.zip_nil_left] at hsought
  rw [← List.append_nil (t.calls.map Call.range)]
  exact hsought

end Timeline

/-- What an outfit calls its source for, from the start of a run to its end, is what a trace of the
run asks for. -/
theorem Outfit.trace_of_finish {σ : Type} (o : Outfit σ) (p : Provider) (plan : List Range)
    (source source' : σ) :
    let f := o.finish (o.launch p plan source) source'
    ∃ arrivals : List Run.Arrival,
      let t := (Trace.start o.settings.run p.id plan).after (arrivals.map .reply)
      t.run = f.timeline.run ∧ f.timeline.run.isOver = true ∧
        (f.timeline.calls.map Call.range).Perm t.asked := by
  intro f
  let opening : Timeline σ := ⟨.ofPlan o.settings.run p.id plan, [], 0, source, []⟩
  let t := Trace.ofPlan o.settings.run p.id plan
  have ht : t.Sound o.settings.run plan := Trace.sound_ofPlan o.settings.run p.id plan
  have hopening : opening.TracedBy t := ⟨rfl, .rfl⟩
  have hidle : opening.Sound (o.fetch p) := List.Forall₂.nil
  have hsound : opening.launch.Sound (o.fetch p) := Timeline.sound_launch hidle
  have hlaunched : (o.launch p plan source).timeline.TracedBy t.fill :=
    (hopening.launch hidle ht.pending).callAll hsound
  have hu := Run.underway_start o.settings.run p.id plan
  rw [← o.run_launch p plan source] at hu
  obtain ⟨arrivals, hend⟩ := Timeline.exists_tracedBy_finish
    (t := { (o.launch p plan source).timeline with source := source' }) hu
    (Timeline.callAll_keeps hsound).1 t.fill ht.fill ⟨hlaunched.run, hlaunched.sought⟩
  obtain ⟨course, -, hrun, hover⟩ := o.course_of_finish p plan source source'
  have hpending := ((Run.underway_start o.settings.run p.id plan).after course).pending_eq_nil hover
  rw [← hrun] at hover hpending
  refine ⟨arrivals, hend.run, ?_, hend.perm_calls hover⟩
  rw [Run.isOver, hpending, hover]
  rfl

/-- Whatever a source answers and in whatever order, a run asks only for planned ranges, and for
single months of those planned ranges that were narrowed. None of them is asked for more often than
attempts allow, and what is narrowed is a planned range of more than one month, once. Until a run is
over some fetch is in flight, and each that returns takes from the most that the plan may lead to.
The calls of a run in time are what such a course asks for. -/
theorem Trace.fetches_bounded_until_over (s : RunSettings) (provider : String)
    (plan : List Range) :
    (∀ happenings : List Happening,
      let t := (start s provider plan).after happenings
      (t.waiting.map Prod.snd = t.run.pending ∧ t.flying.map Prod.snd = t.run.inFlight) ∧
        (∀ e range, .asked e range ∈ t.log → e.AsksFor plan range) ∧
        (∀ e, .narrowed e ∈ t.log →
          e.month = none ∧ ∃ range, plan[e.place]? = some range ∧ range.isSingle = false) ∧
        (∀ e range, t.log.count (.asked e range) ≤ s.attempts) ∧
        (∀ i m range, t.log.count (.asked ⟨i, some m⟩ range) ≤
          s.attempts * t.log.count (.narrowed ⟨i, none⟩)) ∧
        (∀ e, t.log.count (.narrowed e) ≤ 1) ∧
        t.asked.length ≤ s.mostFetches plan ∧
        (t.run.isOver = false → t.run.inFlight ≠ []) ∧
        ∀ next : Nat → Run.Arrival,
          (∀ n, (t.run.along next n).inFlight ≠ [] →
            (next n).place < (t.run.along next n).inFlight.length) →
          ∃ n ≤ s.mostFetches plan, (t.run.along next n).isOver = true) ∧
      ∀ {σ : Type} (o : Outfit σ) (p : Provider) (source source' : σ), o.settings.run = s →
        p.id = provider →
          let f := o.finish (o.launch p plan source) source'
          ∃ arrivals : List Run.Arrival,
            let t := (start s provider plan).after (arrivals.map .reply)
            t.run = f.timeline.run ∧ f.timeline.run.isOver = true ∧
              (f.timeline.calls.map Call.range).Perm t.asked := by
  refine ⟨?_, ?_⟩
  · intro happenings t
    have h : t.Sound s plan := (sound_start s provider plan).after happenings
    have hbusy : t.run.Busy := busy_after (Run.busy_start s provider plan) happenings
    have hwork : t.run.work ≤ s.mostFetches plan :=
      (work_after_le _ happenings).trans_eq (work_start s provider plan)
    refine ⟨⟨h.pending, h.inFlight⟩, ?_, ?_, h.count_asked_le, h.count_month_le,
      h.count_narrowed_le, h.length_asked_le, hbusy.inFlight_ne_nil, ?_⟩
    · intro e range hasked
      exact Entry.asksFor_of_mem_granted (h.mem_granted hasked)
    · intro e hnarrowed
      exact Entry.not_single_of_mem_granted (h.mem_granted hnarrowed)
    · intro next hnext
      obtain ⟨n, hn, hover⟩ := hbusy.exists_isOver hnext
      exact ⟨n, hn.trans hwork, hover⟩
  · rintro σ o p source source' rfl rfl
    exact o.trace_of_finish p plan source source'

/-- Where the source never has time, a range of two months leads to as many fetches as it may. -/
example :
    let s : RunSettings := { rateLimitAttempts := 2 }
    let plan : List Range := [⟨"DR", .january 2020, (Month.january 2020).succ⟩]
    let t := (Trace.start s "p" plan).after
      (List.replicate 6 (.reply ⟨0, .refused .rateLimited⟩))
    t.run.isOver = true ∧ t.asked.length = 6 ∧ s.mostFetches plan = 6 := by
  decide

end UsageReports
