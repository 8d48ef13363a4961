import Mathlib.Data.List.Forall2
import UsageReports.Harvest.ProviderRun
import UsageReports.Proofs.Harvest.Course

/-!
# A run in time is a course

The clock decides when fetches are due and so in what order replies are taken in. What comes of it
is a course of the run in which each reply is one that the source gave to the task it is taken in
for, and the course goes on until the run is over.
-/

namespace UsageReports

namespace Timeline

variable {σ : Type} (fetch : σ → Range → Reply × σ)

/-- A reply that the source gives to a task, in some state. -/
def MayReply (task : FetchTask) (reply : Reply) : Prop :=
  ∃ source, (fetch source task.range).1 = reply

/-- A flight of a task: where it has a reply, it is one to the task. -/
def FlightOf (task : FetchTask) (flight : Flight) : Prop :=
  ∀ reply ∈ flight.reply, MayReply fetch task reply

/-- Whether the fetches in flight have the flights in their places. -/
def Sound (t : Timeline σ) : Prop := List.Forall₂ (FlightOf fetch) t.run.inFlight t.flights

variable {fetch} {t : Timeline σ}

theorem flightOf_waiting (task : FetchTask) (due : Nat) : FlightOf fetch task ⟨due, none⟩ := by
  intro reply hreply
  exact absurd hreply (Option.not_mem_none reply)

theorem sound_launch (h : t.Sound fetch) : t.launch.Sound fetch := by
  apply List.rel_append h
  change List.Forall₂ _ (t.run.pending.take t.run.room)
    (((t.run.inFlight ++ t.run.pending.take t.run.room).drop t.run.inFlight.length).map _)
  rw [List.drop_left]
  apply List.forall₂_map_right_iff.mpr
  apply List.forall₂_same.mpr
  intro task _
  exact flightOf_waiting task _

theorem sound_start (settings : RunSettings) (provider : String) (plan : List Range) (source : σ) :
    (start (.ofPlan settings provider plan) source).Sound fetch :=
  sound_launch List.Forall₂.nil

theorem forall₂_callEach {tasks : List FetchTask} {flights : List Flight} (now : Nat)
    (source : σ) (h : List.Forall₂ (FlightOf fetch) tasks flights) :
    List.Forall₂ (FlightOf fetch) tasks (callEach fetch now (tasks.zip flights) source).1 := by
  induction h generalizing source with
  | nil => exact List.Forall₂.nil
  | @cons task flight tasks flights hflight _ ih =>
    rw [List.zip_cons_cons, callEach]
    split
    · refine List.Forall₂.cons ?_ (ih _)
      intro reply hreply
      exact ⟨source, Option.some.inj hreply⟩
    · exact List.Forall₂.cons hflight (ih _)

/-- A fetch that is due gets a reply. -/
theorem exists_reply_callEach {tasks : List FetchTask} {flights : List Flight} {now : Nat}
    (source : σ) (hlen : tasks.length = flights.length) {due : Flight} (hmem : due ∈ flights)
    (hdue : due.isWaiting = true ∧ due.due ≤ now) :
    ∃ flight ∈ (callEach fetch now (tasks.zip flights) source).1, flight.reply.isSome = true := by
  induction flights generalizing tasks source with
  | nil => exact absurd hmem List.not_mem_nil
  | cons flight flights ih =>
    cases tasks with
    | nil => contradiction
    | cons task tasks =>
      rw [List.zip_cons_cons, callEach]
      split
      · exact ⟨_, List.mem_cons_self, rfl⟩
      · next hnot =>
        have hrest : due ∈ flights := by
          rcases List.mem_cons.mp hmem with rfl | hrest
          · exact absurd (by simpa using hdue) hnot
          · exact hrest
        obtain ⟨other, hother, hreply⟩ := ih source (Nat.succ.inj hlen) hrest
        exact ⟨other, List.mem_cons_of_mem _ hother, hreply⟩

theorem sound_callNext (h : t.Sound fetch) : (t.callNext fetch).Sound fetch := by
  unfold callNext
  split
  · exact h
  · exact forall₂_callEach _ _ h

theorem run_callNext (t : Timeline σ) : (t.callNext fetch).run = t.run := by
  unfold callNext
  split <;> rfl

theorem sound_await (h : t.Sound fetch) : (t.await fetch).Sound fetch := by
  unfold await
  split
  · exact h
  · exact sound_callNext h

theorem getElem?_of_replied {i : Nat} {reply : Reply} (h : t.replied? = some (i, reply)) :
    ∃ flight, t.flights[i]? = some flight ∧ flight.reply = some reply := by
  obtain ⟨⟨flight, j⟩, hmem, hf⟩ := List.exists_of_findSome?_eq_some h
  obtain ⟨r, hr, he⟩ := Option.map_eq_some_iff.mp hf
  obtain ⟨rfl, rfl⟩ := Prod.mk.inj he
  exact ⟨flight, List.mem_zipIdx_iff_getElem?.mp hmem, hr⟩

theorem isSome_replied (h : ∃ flight ∈ t.flights, flight.reply.isSome = true) :
    t.replied?.isSome = true := by
  obtain ⟨flight, hmem, hreply⟩ := h
  obtain ⟨i, hi⟩ := List.getElem?_of_mem hmem
  apply List.findSome?_isSome_iff.mpr
  refine ⟨(flight, i), List.mem_zipIdx_iff_getElem?.mpr hi, ?_⟩
  rw [Option.isSome_map]
  exact hreply

/-- Waiting ends with a reply, unless nothing is in flight. -/
theorem isSome_replied_await (h : t.Sound fetch) (hf : t.run.inFlight ≠ []) :
    (t.await fetch).replied?.isSome = true := by
  unfold await
  split
  · next hreplied => exact hreplied
  · next hnone =>
    have hwaiting : t.flights.filter Flight.isWaiting = t.flights := by
      apply List.filter_eq_self.mpr
      intro flight hmem
      cases hreply : flight.reply with
      | none => simp [Flight.isWaiting, hreply]
      | some reply => exact absurd (isSome_replied ⟨flight, hmem, by rw [hreply]; rfl⟩) hnone
    have hlen := h.length_eq
    apply isSome_replied
    unfold callNext
    rw [hwaiting]
    split
    · next hmin =>
      have hnil : t.flights = [] := by simpa using hmin
      rw [hnil] at hlen
      exact absurd (List.eq_nil_of_length_eq_zero hlen) hf
    · next due hmin =>
      obtain ⟨flight, hmem, rfl⟩ := List.mem_map.mp (List.min?_mem hmin)
      have hw : flight.isWaiting = true := by
        rw [← hwaiting] at hmem
        exact (List.mem_filter.mp hmem).2
      exact exists_reply_callEach _ hlen hmem ⟨hw, Nat.le_max_right _ _⟩

variable {settings : RunSettings} {provider : String}

private theorem forall₂_eraseIdx {α β : Type} {R : α → β → Prop} {as : List α} {bs : List β}
    (h : List.Forall₂ R as bs) (i : Nat) : List.Forall₂ R (as.eraseIdx i) (bs.eraseIdx i) := by
  induction h generalizing i with
  | nil => exact List.Forall₂.nil
  | cons hab hrest ih =>
    cases i with
    | zero => exact hrest
    | succ i => exact List.Forall₂.cons hab (ih i)

theorem sound_settle (hu : t.run.Underway settings provider) (h : t.Sound fetch) {i : Nat}
    (hi : i < t.run.inFlight.length) (reply : Reply) : (t.settle i reply).Sound fetch := by
  have hin : (t.run.settle i reply).inFlight = t.run.inFlight.eraseIdx i :=
    (Run.takes_settle hu.receiving (List.getElem?_eq_getElem hi) reply).inFlight
  have herase := forall₂_eraseIdx h i
  change List.Forall₂ _ (t.run.settle i reply).inFlight
    ((t.flights.eraseIdx i).take (t.run.settle i reply).inFlight.length)
  rw [hin, herase.length_eq, List.take_length]
  exact herase

/-- Finishing in time takes the course of a run to its end. -/
theorem course_of_finish (hu : t.run.Underway settings provider) (h : t.Sound fetch) :
    ∃ arrivals, t.run.Follows (MayReply fetch) arrivals ∧
      (t.finish fetch).run = t.run.after arrivals ∧ (t.finish fetch).run.inFlight = [] := by
  fun_induction finish fetch t with
  | case1 t waited hnone =>
    have hrun : waited.run = t.run := run_await fetch t
    refine ⟨[], trivial, hrun, ?_⟩
    by_contra hf
    have hreplied := isSome_replied_await h (hrun ▸ hf)
    rw [Option.isSome_iff_ne_none] at hreplied
    exact hreplied hnone
  | case2 t waited i reply hsome hi ih =>
    have hrun : waited.run = t.run := run_await fetch t
    have hsound : waited.Sound fetch := sound_await h
    have hu : waited.run.Underway settings provider := hrun ▸ hu
    obtain ⟨arrivals, hmay, hafter, hend⟩ :=
      ih (hu.step ⟨i, reply⟩) (sound_launch (sound_settle hu hsound hi reply))
    refine ⟨⟨i, reply⟩ :: arrivals, ⟨?_, ?_⟩, ?_, hend⟩
    · intro task htask
      rw [← hrun] at htask
      obtain ⟨flight, hflight, hreply⟩ := getElem?_of_replied hsome
      obtain ⟨hi, rfl⟩ := List.getElem?_eq_some_iff.mp htask
      obtain ⟨hj, rfl⟩ := List.getElem?_eq_some_iff.mp hflight
      exact hsound.get hi hj reply hreply
    · rw [← hrun]
      exact hmay
    · rw [hafter, ← hrun]
      rfl
  | case3 t waited i reply hsome hi =>
    obtain ⟨flight, hflight, -⟩ := getElem?_of_replied hsome
    have hsound : waited.Sound fetch := sound_await h
    obtain ⟨hlt, -⟩ := List.getElem?_eq_some_iff.mp hflight
    exact absurd (hsound.length_eq ▸ hlt) hi

theorem callAll_keeps (h : t.Sound fetch) :
    (t.callAll fetch).Sound fetch ∧ (t.callAll fetch).run = t.run := by
  unfold callAll
  generalize t.flights = flights
  induction flights generalizing t with
  | nil => exact ⟨h, rfl⟩
  | cons flight flights ih =>
    obtain ⟨hsound, hrun⟩ := ih (sound_callNext h)
    exact ⟨hsound, hrun.trans (run_callNext t)⟩

end Timeline

/-- A launched run begins in the same way whatever has become of the sources. -/
theorem Outfit.run_launch {σ : Type} (o : Outfit σ) (p : Provider) (plan : List Range)
    (source : σ) : (o.launch p plan source).timeline.run = Run.start o.settings.run p.id plan := by
  have hsound : (Timeline.start (.ofPlan o.settings.run p.id plan) source).Sound (o.fetch p) :=
    Timeline.sound_start o.settings.run p.id plan source
  exact (Timeline.callAll_keeps hsound).2

/-- What an outfit fetches is a course of a run over the plan, from its start to its end. -/
theorem Outfit.course_of_finish {σ : Type} (o : Outfit σ) (p : Provider) (plan : List Range)
    (source source' : σ) :
    ∃ arrivals,
      (Run.start o.settings.run p.id plan).Follows (Timeline.MayReply (o.fetch p)) arrivals ∧
      (o.finish (o.launch p plan source) source').timeline.run =
        (Run.start o.settings.run p.id plan).after arrivals ∧
      ((Run.start o.settings.run p.id plan).after arrivals).inFlight = [] := by
  have hsound : (Timeline.start (.ofPlan o.settings.run p.id plan) source).Sound (o.fetch p) :=
    Timeline.sound_start o.settings.run p.id plan source
  have hsound := (Timeline.callAll_keeps hsound).1
  have hstart := o.run_launch p plan source
  have hu := Run.underway_start o.settings.run p.id plan
  rw [← hstart] at hu
  obtain ⟨arrivals, hmay, hafter, hend⟩ :=
    Timeline.course_of_finish (t := { (o.launch p plan source).timeline with source := source' })
      hu hsound
  rw [hafter] at hend
  rw [← hstart]
  exact ⟨arrivals, hmay, hafter, hend⟩

end UsageReports
