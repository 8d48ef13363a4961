import Mathlib.Algebra.Order.BigOperators.Group.List
import UsageReports.Proofs.Harvest.Errands
import UsageReports.Proofs.Harvest.Throttling

/-!
# Traces of runs

A trace is a run with the errands of its tasks and a log of what was asked for and narrowed. What
is in the log, and what the tasks may still add to it, never goes beyond what is granted to the
plan; and each fetch that returns takes from the work that is left.
-/

namespace UsageReports

/-- A run with the errands of its tasks, and what was noted of it. -/
structure Trace where
  run : Run
  /-- The pending tasks. -/
  waiting : List (Errand × FetchTask)
  /-- The tasks in flight. -/
  flying : List (Errand × FetchTask)
  log : List Entry

namespace Trace

/-- Launch what the limit allows. -/
def fill (t : Trace) : Trace :=
  let launched := t.waiting.take t.run.room
  { run := t.run.fill
    waiting := t.waiting.drop t.run.room
    flying := t.flying ++ launched
    log := t.log ++ launched.map fun (e, task) ↦ .asked e task.range }

/-- A run that has launched nothing yet. -/
def ofPlan (s : RunSettings) (provider : String) (plan : List Range) : Trace where
  run := .ofPlan s provider plan
  waiting := plan.zipIdx.map fun (range, i) ↦ (⟨i, none⟩, .fresh range)
  flying := []
  log := []

/-- Trace a run from its start. -/
def start (s : RunSettings) (provider : String) (plan : List Range) : Trace :=
  (ofPlan s provider plan).fill

/-- Take in a reply. -/
def settle (t : Trace) (a : Run.Arrival) : Trace :=
  let run := t.run.settle a.place a.reply
  match t.flying[a.place]? with
  | none => { t with run }
  | some (e, task) =>
    let v := task.verdict t.run.settings.rateLimitAttempts a.reply.result
    { run
      waiting := (v.enqueue (e.leaves task v) t.waiting).take run.pending.length
      flying := (t.flying.eraseIdx a.place).take run.inFlight.length
      log := t.log ++ e.notes v }

/-- Trace a run while something happens to it. -/
def step (t : Trace) : Happening → Trace
  | .reply a => (t.settle a).fill
  | .abandoned => { t with run := t.run.abandoned }

/-- Trace a run while things happen to it, one after the other. -/
def after (t : Trace) (happenings : List Happening) : Trace := happenings.foldl step t

@[simp] theorem after_nil (t : Trace) : t.after [] = t := rfl

@[simp] theorem after_cons (t : Trace) (h : Happening) (rest : List Happening) :
    t.after (h :: rest) = (t.step h).after rest := rfl

/-- The ranges that were asked for. -/
def asked (t : Trace) : List Range := t.log.filterMap Entry.range?

/-- What the tasks of a run may still lead to. -/
def owing (limit : Nat) (t : Trace) : Multiset Entry :=
  (t.waiting.map (Entry.claim limit)).sum + (t.flying.map (Entry.left limit)).sum

/-- Whether an errand is about a planned range, or one of its place was narrowed. -/
def Justified (log : List Entry) (e : Errand) : Prop :=
  e.month = none ∨ ∃ narrowed : Errand, narrowed.place = e.place ∧ .narrowed narrowed ∈ log

/-- What holds of a trace at any time. -/
structure Sound (s : RunSettings) (plan : List Range) (t : Trace) : Prop where
  settings : t.run.settings = s
  pending : t.waiting.map Prod.snd = t.run.pending
  inFlight : t.flying.map Prod.snd = t.run.inFlight
  limit_pos : 0 < t.run.limit.current
  /-- What was noted and what may still come keep to what is granted to the plan. -/
  within : (t.log : Multiset Entry) + t.owing s.attempts ≤ Entry.granted s.attempts plan
  open_justified : ∀ p ∈ t.waiting ++ t.flying, Justified t.log p.1
  asked_justified : ∀ e range, .asked e range ∈ t.log → Justified t.log e

theorem Justified.mono {log more : List Entry} {e : Errand} (h : Justified log e)
    (hsub : log ⊆ more) : Justified more e :=
  h.imp_right fun ⟨narrowed, hplace, hmem⟩ ↦ ⟨narrowed, hplace, hsub hmem⟩

/-- What tasks claim is that they are asked for, and what is left to them then. -/
theorem sum_claim (limit : Nat) (tasks : List (Errand × FetchTask)) :
    (tasks.map (Entry.claim limit)).sum =
      ((tasks.map fun p ↦ Entry.asked p.1 p.2.range : List Entry) : Multiset Entry) +
        (tasks.map (Entry.left limit)).sum := by
  induction tasks with
  | nil => rfl
  | cons p rest ih =>
    rw [List.map_cons, List.sum_cons, ih, Entry.claim, List.map_cons, ← Multiset.cons_coe,
      List.map_cons, List.sum_cons, ← Multiset.singleton_add, ← Multiset.singleton_add]
    abel

/-- Launching notes what it takes from the claims. -/
theorem log_add_owing_fill (limit : Nat) (t : Trace) :
    (t.fill.log : Multiset Entry) + t.fill.owing limit = t.log + t.owing limit := by
  have hsplit : (t.waiting.map (Entry.claim limit)).sum =
      ((t.waiting.take t.run.room).map (Entry.claim limit)).sum +
        ((t.waiting.drop t.run.room).map (Entry.claim limit)).sum := by
    rw [← List.sum_append, ← List.map_append, List.take_append_drop]
  simp only [owing, fill, ← Multiset.coe_add, hsplit, sum_claim limit (t.waiting.take t.run.room),
    List.map_append, List.sum_append]
  abel

private theorem sum_map_take_le {α : Type} (f : α → Multiset Entry) (l : List α) (n : Nat) :
    ((l.take n).map f).sum ≤ (l.map f).sum :=
  ((List.take_sublist n l).map f).sum_le_sum fun x _ ↦ Multiset.zero_le x

/-- A reply takes what it notes, and what is to be done after it, from what was left to its task. -/
theorem log_add_owing_settle_le (t : Trace) (a : Run.Arrival) :
    ((t.settle a).log : Multiset Entry) + (t.settle a).owing t.run.settings.attempts ≤
      t.log + t.owing t.run.settings.attempts := by
  unfold settle
  split
  · exact le_rfl
  · next e task hat =>
    obtain ⟨hi, heq⟩ := List.getElem?_eq_some_iff.mp hat
    have hnotes := Entry.notes_add_claims_le t.run.settings e task a.reply.result
    simp only [owing, ← Multiset.coe_add]
    generalize task.verdict t.run.settings.rateLimitAttempts a.reply.result = v at hnotes ⊢
    generalize t.run.settings.attempts = limit at hnotes ⊢
    have hwaiting := ((v.enqueue_perm (e.leaves task v) t.waiting).map (Entry.claim limit)).sum_eq
    have hflying := ((List.getElem_cons_eraseIdx_perm hi).map (Entry.left limit)).sum_eq
    rw [List.map_append, List.sum_append] at hwaiting
    rw [List.map_cons, List.sum_cons, heq] at hflying
    let waiting := (t.waiting.map (Entry.claim limit)).sum
    let others := ((t.flying.eraseIdx a.place).map (Entry.left limit)).sum
    calc
      _ ≤ _ := add_le_add_right (add_le_add (sum_map_take_le _ _ _) (sum_map_take_le _ _ _)) _
      _ = t.log + ((e.notes v : Multiset Entry) +
            ((e.leaves task v).map (Entry.claim limit)).sum) + (waiting + others) := by
        rw [hwaiting]
        abel
      _ ≤ t.log + Entry.left limit (e, task) + (waiting + others) :=
        add_le_add_left (add_le_add_right hnotes _) _
      _ = t.log + (waiting + (t.flying.map (Entry.left limit)).sum) := by
        rw [← hflying]
        abel

variable {s : RunSettings} {plan : List Range} {t : Trace}

theorem Sound.fill (h : t.Sound s plan) : t.fill.Sound s plan := by
  have hopen : ∀ p ∈ t.waiting, Justified t.fill.log p.1 := fun p hp ↦
    (h.open_justified p (List.mem_append_left _ hp)).mono (List.subset_append_left _ _)
  refine ⟨h.settings, ?_, ?_, h.limit_pos, ?_, ?_, ?_⟩
  · rw [Trace.fill, List.map_drop, h.pending]
    rfl
  · rw [Trace.fill, List.map_append, List.map_take, h.pending, h.inFlight]
    rfl
  · rw [log_add_owing_fill]
    exact h.within
  · intro p hp
    rcases List.mem_append.mp hp with hwaiting | hflying
    · exact hopen p (List.mem_of_mem_drop hwaiting)
    · rcases List.mem_append.mp hflying with hold | hlaunched
      · exact (h.open_justified p (List.mem_append_right _ hold)).mono
          (List.subset_append_left _ _)
      · exact hopen p (List.mem_of_mem_take hlaunched)
  · intro e range hasked
    rcases List.mem_append.mp hasked with hold | hlaunched
    · exact (h.asked_justified e range hold).mono (List.subset_append_left _ _)
    · obtain ⟨p, hp, heq⟩ := List.mem_map.mp hlaunched
      obtain ⟨rfl, -⟩ := Entry.asked.inj heq
      exact hopen p (List.mem_of_mem_take hp)

/-- An errand that a verdict leaves is the same one, or the verdict notes why it is another. -/
theorem Justified.leaves {log : List Entry} {e : Errand} (h : Justified log e) {task : FetchTask}
    {v : Verdict} {p : Errand × FetchTask} (hp : p ∈ e.leaves task v) :
    Justified (log ++ e.notes v) p.1 := by
  cases v with
  | again =>
    rw [List.mem_singleton.mp hp]
    exact h.mono (List.subset_append_left _ _)
  | split =>
    obtain ⟨m, -, rfl⟩ := List.mem_map.mp hp
    exact .inr ⟨e, rfl, List.mem_append_right _ (List.mem_singleton_self _)⟩
  | filed returned => exact absurd hp List.not_mem_nil
  | dropped reason => exact absurd hp List.not_mem_nil

theorem filterMap_notes (e : Errand) (v : Verdict) : (e.notes v).filterMap Entry.range? = [] := by
  cases v <;> rfl

theorem asked_not_mem_notes (e : Errand) (v : Verdict) (e' : Errand) (range : Range) :
    .asked e' range ∉ e.notes v := by
  intro h
  have hrange := List.mem_filterMap.mpr ⟨_, h, Entry.range?.eq_1 e' range⟩
  rw [filterMap_notes] at hrange
  exact absurd hrange List.not_mem_nil

theorem asked_fill (t : Trace) :
    t.fill.asked = t.asked ++ (t.waiting.take t.run.room).map fun p ↦ p.2.range := by
  rw [asked, fill, List.filterMap_append, List.filterMap_map]
  exact congrArg (_ ++ ·) (congrFun List.filterMap_eq_map' _)

/-- Taking in a reply asks for nothing. -/
theorem asked_settle (t : Trace) (a : Run.Arrival) : (t.settle a).asked = t.asked := by
  unfold settle
  split
  · rfl
  · rw [asked, List.filterMap_append, filterMap_notes, List.append_nil]
    rfl

/-- A reply to a place where nothing is in flight changes nothing. -/
theorem Sound.settle_eq_self (h : t.Sound s plan) {a : Run.Arrival}
    (hnone : t.flying[a.place]? = none) : t.settle a = t := by
  have hat : t.run.inFlight[a.place]? = none := by
    rw [← h.inFlight, List.getElem?_map, hnone]
    rfl
  have hrun : t.run.settle a.place a.reply = t.run := by rw [Run.settle, hat]
  rw [Trace.settle, hnone]
  dsimp only
  rw [hrun]

/-- The errands that wait once a verdict on an open task is carried out are justified. -/
theorem Sound.justified_enqueue (h : t.Sound s plan) {e : Errand} {task : FetchTask}
    (hmem : (e, task) ∈ t.flying) {v : Verdict} {p : Errand × FetchTask}
    (hp : p ∈ v.enqueue (e.leaves task v) t.waiting) : Justified (t.log ++ e.notes v) p.1 := by
  rcases List.mem_append.mp ((v.enqueue_perm _ _).subset hp) with hleft | hold
  · exact (h.open_justified _ (List.mem_append_right _ hmem)).leaves hleft
  · exact (h.open_justified p (List.mem_append_left _ hold)).mono (List.subset_append_left _ _)

theorem Sound.settle (h : t.Sound s plan) (a : Run.Arrival) : (t.settle a).Sound s plan := by
  have hpos : 0 < (t.run.settle a.place a.reply).limit.current :=
    Run.limit_pos_settle h.limit_pos _ _
  cases hflying : t.flying[a.place]? with
  | none =>
    rw [h.settle_eq_self hflying]
    exact h
  | some p =>
    obtain ⟨e, task⟩ := p
    have hmem : (e, task) ∈ t.flying := List.mem_of_getElem? hflying
    have hat : t.run.inFlight[a.place]? = some task := by
      rw [← h.inFlight, List.getElem?_map, hflying]
      rfl
    have hq := Run.queues_settle (a := a) hat
    have hwithin := t.log_add_owing_settle_le a
    rw [Trace.settle, hflying] at hwithin ⊢
    dsimp only at hwithin ⊢
    generalize task.verdict t.run.settings.rateLimitAttempts a.reply.result = v at hq hwithin ⊢
    refine ⟨hq.settings.trans h.settings, ?_, ?_, hpos, ?_, ?_, ?_⟩
    · rw [List.map_take, Verdict.map_enqueue, Errand.map_leaves, h.pending]
      exact hq.take_pending
    · rw [List.map_take, ← List.eraseIdx_map, h.inFlight]
      exact hq.take_inFlight
    · rw [h.settings] at hwithin
      exact hwithin.trans h.within
    · intro p hp
      rcases List.mem_append.mp hp with hwaiting | hrest
      · exact h.justified_enqueue hmem (List.mem_of_mem_take hwaiting)
      · have hold := (List.eraseIdx_sublist _ _).subset (List.mem_of_mem_take hrest)
        exact (h.open_justified p (List.mem_append_right _ hold)).mono
          (List.subset_append_left _ _)
    · intro e' range hasked
      rcases List.mem_append.mp hasked with hold | hnoted
      · exact (h.asked_justified e' range hold).mono (List.subset_append_left _ _)
      · exact absurd hnoted (asked_not_mem_notes e v e' range)

theorem sound_ofPlan (s : RunSettings) (provider : String) (plan : List Range) :
    (ofPlan s provider plan).Sound s plan := by
  refine ⟨rfl, ?_, rfl, Nat.le_max_right _ _, ?_, ?_, ?_⟩
  · rw [ofPlan, List.map_map]
    change _ = plan.map FetchTask.fresh
    conv_rhs => rw [← List.zipIdx_map_fst 0 plan]
    rw [List.map_map]
    rfl
  · apply le_of_eq
    simp only [ofPlan, owing, List.map_map, List.map_nil, List.sum_nil, add_zero, zero_add,
      Multiset.coe_nil]
    rfl
  · intro p hp
    rw [ofPlan, List.append_nil] at hp
    obtain ⟨q, -, rfl⟩ := List.mem_map.mp hp
    exact .inl rfl
  · intro e range h
    exact absurd h List.not_mem_nil

theorem sound_start (s : RunSettings) (provider : String) (plan : List Range) :
    (start s provider plan).Sound s plan :=
  (sound_ofPlan s provider plan).fill

theorem Sound.step (h : t.Sound s plan) (happening : Happening) :
    (t.step happening).Sound s plan := by
  cases happening with
  | reply a => exact (h.settle a).fill
  | abandoned =>
    exact ⟨h.settings, h.pending, h.inFlight, h.limit_pos, h.within, h.open_justified,
      h.asked_justified⟩

theorem Sound.after (h : t.Sound s plan) (happenings : List Happening) :
    (t.after happenings).Sound s plan := by
  induction happenings generalizing t with
  | nil => exact h
  | cons happening rest ih => exact ih (h.step happening)

@[simp] theorem run_settle (t : Trace) (a : Run.Arrival) :
    (t.settle a).run = t.run.settle a.place a.reply := by
  unfold settle
  split <;> rfl

/-- No happening adds to the work that is left. -/
theorem work_step_le (t : Trace) (happening : Happening) :
    (t.step happening).run.work ≤ t.run.work := by
  cases happening with
  | abandoned => exact le_rfl
  | reply a =>
    change (t.settle a).run.fill.work ≤ _
    rw [Run.work_fill, run_settle]
    by_cases hi : a.place < t.run.inFlight.length
    · exact Nat.le_of_lt (t.run.work_settle_lt hi a.reply)
    · rw [Run.settle, List.getElem?_eq_none (Nat.not_lt.mp hi)]

theorem work_after_le (t : Trace) (happenings : List Happening) :
    (t.after happenings).run.work ≤ t.run.work := by
  induction happenings generalizing t with
  | nil => exact le_rfl
  | cons happening rest ih => exact (ih _).trans (t.work_step_le happening)

/-- The work of a whole run is what its plan may lead to. -/
theorem work_start (s : RunSettings) (provider : String) (plan : List Range) :
    (start s provider plan).run.work = s.mostFetches plan := by
  change (Run.ofPlan s provider plan).fill.work = _
  rw [Run.work_fill, Run.work_eq, RunSettings.mostFetches]
  simp only [Run.ofPlan, List.map_map, List.map_nil, total_nil, Nat.add_zero]
  congr 1
  apply List.map_congr_left
  intro range _
  exact FetchTask.cost_fresh s.attempts_pos range

/-! ### What a trace tells -/

theorem Sound.log_le (h : t.Sound s plan) :
    (t.log : Multiset Entry) ≤ Entry.granted s.attempts plan :=
  (Multiset.le_add_right _ _).trans h.within

theorem Sound.count_le (h : t.Sound s plan) (x : Entry) :
    t.log.count x ≤ (Entry.granted s.attempts plan).count x := by
  rw [← Multiset.coe_count]
  exact Multiset.count_le_of_le x h.log_le

theorem Sound.mem_granted (h : t.Sound s plan) {x : Entry} (hx : x ∈ t.log) :
    x ∈ Entry.granted s.attempts plan :=
  Multiset.mem_of_le h.log_le hx

/-- A range is asked for no more often than attempts allow. -/
theorem Sound.count_asked_le (h : t.Sound s plan) (e : Errand) (range : Range) :
    t.log.count (.asked e range) ≤ s.attempts :=
  (h.count_le _).trans
    (Entry.count_granted_le (fun i p ↦ Entry.count_asked_claim_le s.attempts_pos i p e range) plan)

/-- A range is narrowed at most once. -/
theorem Sound.count_narrowed_le (h : t.Sound s plan) (e : Errand) :
    t.log.count (.narrowed e) ≤ 1 :=
  (h.count_le _).trans
    (Entry.count_granted_le (fun i p ↦ Entry.count_narrowed_claim_le s.attempts_pos i p e) plan)

/-- Before a single month of a range is asked for, the range is narrowed. -/
theorem Sound.narrowed_of_asked (h : t.Sound s plan) {i : Nat} {m : Month} {range : Range}
    (hasked : .asked ⟨i, some m⟩ range ∈ t.log) : .narrowed ⟨i, none⟩ ∈ t.log := by
  rcases h.asked_justified _ _ hasked with hplanned | ⟨⟨j, month⟩, hplace, hmem⟩
  · contradiction
  · obtain ⟨hmonth, -⟩ := Entry.not_single_of_mem_granted (h.mem_granted hmem)
    obtain rfl : j = i := hplace
    obtain rfl : month = none := hmonth
    exact hmem

/-- Each narrowing has a single month asked for no more often than attempts allow. -/
theorem Sound.count_month_le (h : t.Sound s plan) (i : Nat) (m : Month) (range : Range) :
    t.log.count (.asked ⟨i, some m⟩ range) ≤ s.attempts * t.log.count (.narrowed ⟨i, none⟩) := by
  by_cases hasked : .asked ⟨i, some m⟩ range ∈ t.log
  · have hpos := List.count_pos_iff.mpr (h.narrowed_of_asked hasked)
    exact (h.count_asked_le _ _).trans (Nat.le_mul_of_pos_right _ hpos)
  · rw [List.count_eq_zero_of_not_mem hasked]
    exact Nat.zero_le _

/-- All in all there are no more fetches than the plan may lead to. -/
theorem Sound.length_asked_le (h : t.Sound s plan) : t.asked.length ≤ s.mostFetches plan := by
  have hcount : t.asked.length = (t.log : Multiset Entry).countP (Entry.isAsked · = true) := by
    rw [asked, List.length_filterMap_eq_countP, Multiset.coe_countP]
    congr 1
    funext x
    exact Bool.decide_eq_true.symm
  rw [hcount, ← Entry.countP_granted]
  exact Multiset.countP_le_of_le _ h.log_le

end Trace

/-! ### The end of a run -/

namespace Run

/-- Whether a run makes use of its limit: tasks wait only while as many fetches as allowed are in
flight. -/
structure Busy (r : Run) : Prop where
  limit_pos : 0 < r.limit.current
  full : r.pending ≠ [] → r.limit.current ≤ r.inFlight.length

variable {r : Run}

theorem busy_start (s : RunSettings) (provider : String) (plan : List Range) :
    (start s provider plan).Busy :=
  ⟨Nat.le_max_right _ _, full_fill _⟩

theorem Busy.step (h : r.Busy) (a : Arrival) : (r.step a).Busy :=
  ⟨limit_pos_settle h.limit_pos _ _, full_fill _⟩

/-- While a run is not over, a fetch is in flight. -/
theorem Busy.inFlight_ne_nil (h : r.Busy) (hover : r.isOver = false) : r.inFlight ≠ [] := by
  intro hf
  have hpending : r.pending ≠ [] := by
    intro hp
    rw [isOver, hp, hf] at hover
    contradiction
  have hfull := h.full hpending
  rw [hf] at hfull
  exact absurd (h.limit_pos.trans_le hfull) (Nat.lt_irrefl 0)

/-- A run once so many of the replies are in that come one after the other. -/
def along (r : Run) (next : Nat → Arrival) : Nat → Run
  | 0 => r
  | n + 1 => (r.along next n).step (next n)

theorem Busy.along (h : r.Busy) (next : Nat → Arrival) (n : Nat) : (r.along next n).Busy := by
  induction n with
  | zero => exact h
  | succ n ih => exact ih.step (next n)

/-- As long as a run is not over, each reply takes from the work that is left. -/
theorem work_along_add_le {next : Nat → Arrival} {n : Nat}
    (h : ∀ k < n, (next k).place < (r.along next k).inFlight.length) :
    (r.along next n).work + n ≤ r.work := by
  induction n with
  | zero => exact le_rfl
  | succ n ih =>
    have hlt := work_step_lt (h n (Nat.lt_succ_self n))
    have hle := ih fun k hk ↦ h k (Nat.lt_succ_of_lt hk)
    rw [Run.along]
    omega

/-- A run ends, in whatever order its fetches return and whatever they return. -/
theorem Busy.exists_isOver (h : r.Busy) {next : Nat → Arrival}
    (hnext : ∀ n, (r.along next n).inFlight ≠ [] →
      (next n).place < (r.along next n).inFlight.length) :
    ∃ n ≤ r.work, (r.along next n).isOver = true := by
  by_contra hnot
  push Not at hnot
  have hlands : ∀ k < r.work + 1, (next k).place < (r.along next k).inFlight.length := by
    intro k hk
    have hover : (r.along next k).isOver = false :=
      Bool.eq_false_iff.mpr (hnot k (Nat.le_of_lt_succ hk))
    exact hnext k ((h.along next k).inFlight_ne_nil hover)
  have hle := work_along_add_le hlands
  omega

end Run

theorem Trace.busy_after {t : Trace} (h : t.run.Busy) (happenings : List Happening) :
    (t.after happenings).run.Busy := by
  induction happenings generalizing t with
  | nil => exact h
  | cons happening rest ih =>
    refine ih ?_
    cases happening with
    | abandoned => exact ⟨h.limit_pos, h.full⟩
    | reply a =>
      change (t.settle a).run.fill.Busy
      rw [run_settle]
      exact h.step a

end UsageReports
