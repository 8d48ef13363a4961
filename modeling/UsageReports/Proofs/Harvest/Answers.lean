import UsageReports.Proofs.Harvest.Trace

/-!
# What a run was answered

Along a course each reply answers a call that was made on some errand. What becomes of a planned
range is told by the answers to it alone: it is asked for again as long as there is no time and
attempts are left, and narrowed if the last of them refuses it.
-/

namespace UsageReports

/-- The kinds of answers. -/
inductive Reply.Kind where
  | brought
  | noTime
  | refused
  | failed
deriving DecidableEq

/-- The kind of a reply. A fetch that broke down has failed. -/
def Reply.kind : Reply → Kind
  | records _ => .brought
  | refused .rateLimited => .noTime
  | refused (.invalidReport _) => .refused
  | refused (.failure _) => .failed
  | panicked _ => .failed
  | died => .failed

/-- A reply asks to slow down exactly if there is no time. -/
theorem Reply.isSlowing_eq (reply : Reply) : reply.isSlowing = decide (reply.kind = .noTime) := by
  cases reply with
  | records returned => rfl
  | panicked text => rfl
  | died => rfl
  | refused cause => cases cause <;> rfl

/-- After so many answers that left attempts, there was no time as often as attempts allow exactly
if there is none once more, and no attempt is left then. -/
theorem Reply.count_noTime {s : RunSettings} {k : Nat} (h : k = 0 ∨ k < s.rateLimitAttempts)
    {kind : Reply.Kind} :
    (List.replicate k Kind.noTime ++ [kind]).count .noTime = s.attempts ↔
      kind = .noTime ∧ s.rateLimitAttempts ≤ k + 1 := by
  rw [List.count_append, List.count_replicate_self, RunSettings.attempts]
  by_cases hkind : kind = .noTime
  · simp only [hkind, List.count_singleton_self, true_and]
    omega
  · simp only [hkind, List.count_singleton, beq_iff_eq, if_false, false_and, iff_false]
    omega

/-! ### Verdicts by the kind of an answer -/

namespace FetchTask

variable {limit : Nat} {task : FetchTask} {reply : Reply}

theorem refused_eq_split_iff {reason : String} :
    task.refused reason = .split ↔ task.range.isSingle = false := by
  cases hsingle : task.range.isSingle <;> simp [refused, hsingle]

theorem verdict_eq_again_iff :
    task.verdict limit reply.result = .again ↔
      reply.kind = .noTime ∧ task.attempts + 1 < limit := by
  cases reply with
  | records returned => simp [Reply.result, Reply.kind, verdict]
  | panicked text => simp [Reply.result, Reply.kind, verdict]
  | died => simp [Reply.result, Reply.kind, verdict]
  | refused cause =>
    cases cause with
    | rateLimited => simp [Reply.result, Reply.kind, verdict, refused_ne_again]
    | invalidReport reason => simp [Reply.result, Reply.kind, verdict, refused_ne_again]
    | failure reason => simp [Reply.result, Reply.kind, verdict]

theorem verdict_eq_split_iff :
    task.verdict limit reply.result = .split ↔ task.range.isSingle = false ∧
      (reply.kind = .refused ∨ reply.kind = .noTime ∧ limit ≤ task.attempts + 1) := by
  cases reply with
  | records returned => simp [Reply.result, Reply.kind, verdict]
  | panicked text => simp [Reply.result, Reply.kind, verdict]
  | died => simp [Reply.result, Reply.kind, verdict]
  | refused cause =>
    cases cause with
    | rateLimited =>
      by_cases hlt : task.attempts + 1 < limit
      · simp [Reply.result, Reply.kind, verdict, hlt]
      · simp [Reply.result, Reply.kind, verdict, hlt, refused_eq_split_iff, Nat.not_lt.mp hlt]
    | invalidReport reason =>
      simp [Reply.result, Reply.kind, verdict, refused_eq_split_iff]
    | failure reason => simp [Reply.result, Reply.kind, verdict]

end FetchTask

/-! ### Calls -/

/-- A call that was made on an errand, and the reply to it. -/
structure Inquiry where
  errand : Errand
  task : FetchTask
  reply : Reply

namespace Inquiry

/-- The kind of the answer to a call. -/
def kind (c : Inquiry) : Reply.Kind := c.reply.kind

/-- What became of the task of a call. -/
def verdict (limit : Nat) (c : Inquiry) : Verdict := c.task.verdict limit c.reply.result

theorem verdict_eq_split_iff (limit : Nat) (c : Inquiry) :
    c.verdict limit = .split ↔ c.task.range.first ≠ c.task.range.last ∧
      (c.kind = .refused ∨ c.kind = .noTime ∧ limit ≤ c.task.attempts + 1) := by
  rw [verdict, FetchTask.verdict_eq_split_iff, Range.isSingle, decide_eq_false_iff_not]
  exact Iff.rfl

/-- The tasks that a call leaves to be done, with their errands. -/
def leaves (limit : Nat) (c : Inquiry) : List (Errand × FetchTask) :=
  c.errand.leaves c.task (c.verdict limit)

/-- The answers to the calls on an errand. -/
def answersTo (e : Errand) (calls : List Inquiry) : List Reply.Kind :=
  (calls.filter (·.errand = e)).map kind

variable {e : Errand} (calls : List Inquiry) {c : Inquiry}

theorem answersTo_append_self (h : c.errand = e) :
    answersTo e (calls ++ [c]) = answersTo e calls ++ [c.kind] := by
  simp [answersTo, h]

theorem answersTo_append_of_ne (h : c.errand ≠ e) :
    answersTo e (calls ++ [c]) = answersTo e calls := by
  simp [answersTo, h]

end Inquiry

namespace Trace

/-- The call that an arrival answers, if it answers any. -/
def inquiry? (t : Trace) (a : Run.Arrival) : Option Inquiry :=
  t.flying[a.place]?.map fun (errand, task) ↦ ⟨errand, task, a.reply⟩

/-- The calls that are answered along a course. -/
def inquiries : Trace → List Run.Arrival → List Inquiry
  | _, [] => []
  | t, a :: rest => (t.inquiry? a).toList ++ (t.step (.reply a)).inquiries rest

/-- Launching narrows nothing. -/
theorem narrowed_mem_log_fill {t : Trace} {e : Errand} :
    .narrowed e ∈ t.fill.log ↔ .narrowed e ∈ t.log := by
  simp only [fill, List.mem_append, or_iff_left_iff_imp]
  intro h
  obtain ⟨p, -, hp⟩ := List.mem_map.mp h
  contradiction

/-- A verdict has a narrowing noted exactly if its months are to be asked for one by one. -/
theorem narrowed_mem_notes {e e' : Errand} {v : Verdict} :
    .narrowed e ∈ e'.notes v ↔ v = .split ∧ e' = e := by
  cases v <;> simp [Errand.notes, eq_comm]

/-- What the answer to a call does to a trace whose records are taken. -/
structure Hears (s : RunSettings) (t : Trace) (c : Inquiry) (next : Trace) : Prop where
  waiting : next.waiting.Perm (c.leaves s.rateLimitAttempts ++ t.waiting)
  flying : t.flying.Perm ((c.errand, c.task) :: next.flying)
  log : next.log = t.log ++ c.errand.notes (c.verdict s.rateLimitAttempts)
  tally : next.run.tally = t.run.tally + Tally.ofResult c.reply.result +
    Tally.ofVerdict (c.verdict s.rateLimitAttempts) +
    Tally.ofRecords (c.task.emits t.run.provider (c.verdict s.rateLimitAttempts))

variable {s : RunSettings} {plan : List Range} {t next : Trace} {c : Inquiry}

/-- A reply to nothing changes nothing, and any other answers a call. -/
theorem Sound.settle_cases (h : t.Sound s plan) (hr : t.run.receiving = true) (a : Run.Arrival) :
    (t.inquiry? a = none ∧ t.settle a = t) ∨
      ∃ c, t.inquiry? a = some c ∧ t.Hears s c (t.settle a) := by
  cases hat : t.flying[a.place]? with
  | none => exact .inl ⟨by simp [inquiry?, hat], h.settle_eq_self hat⟩
  | some p =>
    obtain ⟨e, task⟩ := p
    have hin : t.run.inFlight[a.place]? = some task := by
      rw [← h.inFlight, List.getElem?_map, hat]
      rfl
    have ht := Run.takes_settle hr hin a.reply
    rw [h.settings] at ht
    -- As the records are taken, nothing is cut off from what waits or flies.
    have hpending := (Verdict.enqueue_perm (task.verdict s.rateLimitAttempts a.reply.result)
      (e.leaves task (task.verdict s.rateLimitAttempts a.reply.result)) t.waiting).length_eq
    have hwaiting : (t.run.settle a.place a.reply).pending.length =
        ((task.verdict s.rateLimitAttempts a.reply.result).enqueue
          (e.leaves task (task.verdict s.rateLimitAttempts a.reply.result)) t.waiting).length := by
      rw [hpending, ht.pending.length_eq, ← h.pending, ← Errand.map_leaves e]
      simp
    have hflying : (t.run.settle a.place a.reply).inFlight.length =
        (t.flying.eraseIdx a.place).length := by
      rw [ht.inFlight, ← h.inFlight, List.eraseIdx_map, List.length_map]
    obtain ⟨hi, heq⟩ := List.getElem?_eq_some_iff.mp hat
    refine .inr ⟨⟨e, task, a.reply⟩, by simp [inquiry?, hat], ?_⟩
    rw [Trace.settle, hat, h.settings]
    refine ⟨?_, ?_, rfl, ht.tally⟩
    · dsimp only
      rw [hwaiting, List.take_length]
      exact Verdict.enqueue_perm _ _ _
    · dsimp only
      rw [hflying, List.take_length, ← heq]
      exact (List.getElem_cons_eraseIdx_perm hi).symm

/-! ### The tasks on an errand -/

/-- The tasks that are open on an errand. -/
def tasksOn (t : Trace) (e : Errand) : List FetchTask :=
  ((t.waiting ++ t.flying).filter (·.1 = e)).map Prod.snd

/-- Launching leaves open what is open. -/
theorem tasksOn_fill_perm (t : Trace) (e : Errand) : (t.fill.tasksOn e).Perm (t.tasksOn e) := by
  have hperm : (t.fill.waiting ++ t.fill.flying).Perm (t.waiting ++ t.flying) :=
    Run.launched_perm t.waiting t.flying t.run.room
  exact (hperm.filter _).map _

/-- What an answer does to the tasks that are open: its own is no more, and what it leaves is. -/
theorem Hears.tasksOn (h : t.Hears s c next) (e : Errand) :
    ∃ others, (t.tasksOn e).Perm ((if c.errand = e then [c.task] else []) ++ others) ∧
      (next.tasksOn e).Perm
        (((c.leaves s.rateLimitAttempts).filter (·.1 = e)).map Prod.snd ++ others) := by
  refine ⟨((t.waiting ++ next.flying).filter (·.1 = e)).map Prod.snd, ?_, ?_⟩
  · have hperm : (t.waiting ++ t.flying).Perm ((c.errand, c.task) :: (t.waiting ++ next.flying)) :=
      (h.flying.append_left _).trans List.perm_middle
    have hopen := (hperm.filter (·.1 = e)).map Prod.snd
    by_cases he : c.errand = e
    · simpa [Trace.tasksOn, he] using hopen
    · simpa [Trace.tasksOn, he] using hopen
  · have hperm : (next.waiting ++ next.flying).Perm
        (c.leaves s.rateLimitAttempts ++ (t.waiting ++ next.flying)) := by
      rw [← List.append_assoc]
      exact h.waiting.append_right _
    rw [← List.map_append, ← List.filter_append]
    exact (hperm.filter _).map _

section Leaves

variable {limit : Nat} {c : Inquiry} {i : Nat}

/-- What is asked for again stays open. -/
theorem filter_leaves_of_again (he : c.errand = ⟨i, none⟩) (hv : c.verdict limit = .again) :
    ((c.leaves limit).filter (·.1 = ⟨i, none⟩)).map Prod.snd =
      [⟨c.task.range, c.task.attempts + 1⟩] := by
  simp [Inquiry.leaves, Errand.leaves, hv, he]

/-- Nothing else stays open on a planned range, as its months are on errands of their own. -/
theorem filter_leaves_eq_nil (h : c.errand = ⟨i, none⟩ → c.verdict limit ≠ .again) :
    ((c.leaves limit).filter (·.1 = ⟨i, none⟩)).map Prod.snd = [] := by
  rw [Inquiry.leaves]
  cases hv : c.verdict limit with
  | again =>
    have he : c.errand ≠ ⟨i, none⟩ := fun he ↦ h he hv
    simp [Errand.leaves, he]
  | split => simp [Errand.leaves, Errand.narrowedTo]
  | filed returned => simp [Errand.leaves]
  | dropped reason => simp [Errand.leaves]

end Leaves

/-! ### How a planned range stands -/

/-- How the planned range at a place stands, where these calls were answered. -/
inductive Stands (s : RunSettings) (t : Trace) (calls : List Inquiry) (i : Nat) (range : Range) :
    Prop
  /-- It is to be asked for; so far there was no time, and attempts are left. -/
  | asked (k : Nat) (left : k = 0 ∨ k < s.rateLimitAttempts)
      (tasks : t.tasksOn ⟨i, none⟩ = [⟨range, k⟩])
      (answers : Inquiry.answersTo ⟨i, none⟩ calls = List.replicate k .noTime)
      (kept : .narrowed ⟨i, none⟩ ∉ t.log)
  /-- It is done with; it was narrowed if it has several months and the last answer refused it, or
  there was no time as often as attempts allow. -/
  | done (tasks : t.tasksOn ⟨i, none⟩ = [])
      (narrowed : .narrowed ⟨i, none⟩ ∈ t.log ↔ range.first ≠ range.last ∧
        ((Inquiry.answersTo ⟨i, none⟩ calls).getLast? = some .refused ∨
          (Inquiry.answersTo ⟨i, none⟩ calls).count .noTime = s.attempts))

variable {calls : List Inquiry} {i : Nat} {range : Range}

theorem Stands.fill (h : t.Stands s calls i range) : t.fill.Stands s calls i range := by
  have hperm := t.tasksOn_fill_perm ⟨i, none⟩
  cases h with
  | asked k left tasks answers kept =>
    rw [tasks, List.perm_singleton] at hperm
    exact .asked k left hperm answers (narrowed_mem_log_fill.not.mpr kept)
  | done tasks narrowed =>
    rw [tasks, List.perm_nil] at hperm
    exact .done hperm (narrowed_mem_log_fill.trans narrowed)

/-- An answer on another errand leaves a planned range as it stands. -/
theorem Stands.hears_other (h : t.Stands s calls i range) (hc : t.Hears s c next)
    (he : c.errand ≠ ⟨i, none⟩) : next.Stands s (calls ++ [c]) i range := by
  obtain ⟨others, hbefore, hafter⟩ := hc.tasksOn ⟨i, none⟩
  rw [if_neg he, List.nil_append] at hbefore
  rw [filter_leaves_eq_nil fun h ↦ absurd h he, List.nil_append] at hafter
  have hperm := hafter.trans hbefore.symm
  have hlog : .narrowed ⟨i, none⟩ ∈ next.log ↔ .narrowed ⟨i, none⟩ ∈ t.log := by
    rw [hc.log, List.mem_append, narrowed_mem_notes, or_iff_left fun h ↦ he h.2]
  have hanswers := Inquiry.answersTo_append_of_ne calls he
  cases h with
  | asked k left tasks answers kept =>
    rw [tasks, List.perm_singleton] at hperm
    exact .asked k left hperm (hanswers.trans answers) (hlog.not.mpr kept)
  | done tasks narrowed =>
    rw [tasks, List.perm_nil] at hperm
    rw [← hanswers] at narrowed
    exact .done hperm (hlog.trans narrowed)

/-- The answer on a planned range that is asked for decides how it stands then. -/
theorem Stands.hears_own (h : t.Stands s calls i range) (hc : t.Hears s c next)
    (he : c.errand = ⟨i, none⟩) : next.Stands s (calls ++ [c]) i range := by
  obtain ⟨others, hbefore, hafter⟩ := hc.tasksOn ⟨i, none⟩
  rw [if_pos he, List.singleton_append] at hbefore
  have hanswers := Inquiry.answersTo_append_self calls he
  cases h with
  | done tasks narrowed =>
    rw [tasks] at hbefore
    exact absurd hbefore.symm.eq_nil (List.cons_ne_nil _ _)
  | asked k left tasks answers kept =>
    rw [tasks] at hbefore
    obtain ⟨htask, rfl⟩ := List.cons.inj (List.singleton_perm.mp hbefore)
    rw [List.append_nil] at hafter
    rw [answers] at hanswers
    by_cases hv : c.verdict s.rateLimitAttempts = .again
    · obtain ⟨hkind, hlt⟩ := FetchTask.verdict_eq_again_iff.mp hv
      rw [filter_leaves_of_again he hv, List.perm_singleton] at hafter
      rw [← htask] at hafter hlt
      refine .asked (k + 1) (.inr hlt) hafter ?_ ?_
      · rw [hanswers, List.replicate_succ', show c.kind = .noTime from hkind]
      · rw [hc.log, hv]
        simpa [Errand.notes] using kept
    · rw [filter_leaves_eq_nil fun _ ↦ hv, List.perm_nil] at hafter
      refine .done hafter ?_
      have hsplit : c.verdict s.rateLimitAttempts = .split ↔ range.first ≠ range.last ∧
          (c.kind = .refused ∨ c.kind = .noTime ∧ s.rateLimitAttempts ≤ k + 1) := by
        simpa only [← htask] using c.verdict_eq_split_iff s.rateLimitAttempts
      rw [hanswers, List.getLast?_concat, Option.some.injEq, Reply.count_noTime left, hc.log,
        List.mem_append, or_iff_right kept, narrowed_mem_notes, and_iff_left he]
      exact hsplit

/-- A planned range stands somehow after every reply, whatever calls it answers. -/
theorem Stands.step (h : t.Stands s calls i range) (ht : t.Sound s plan)
    (hr : t.run.receiving = true) (a : Run.Arrival) :
    (t.step (.reply a)).Stands s (calls ++ (t.inquiry? a).toList) i range := by
  apply Stands.fill
  rcases ht.settle_cases hr a with ⟨hnone, heq⟩ | ⟨c, hsome, hc⟩
  · rw [hnone, heq, Option.toList_none, List.append_nil]
    exact h
  · rw [hsome, Option.toList_some]
    by_cases he : c.errand = ⟨i, none⟩
    · exact h.hears_own hc he
    · exact h.hears_other hc he

/-- The planned range at a place is the only one there. -/
theorem filter_zipIdx (plan : List Range) (first i : Nat) :
    (plan.zipIdx first).filter (·.2 = first + i) = plan[i]?.toList.map (·, first + i) := by
  induction plan generalizing first i with
  | nil => simp
  | cons range rest ih =>
    rw [List.zipIdx_cons, List.filter_cons]
    cases i with
    | zero =>
      have hrest : (rest.zipIdx (first + 1)).filter (·.2 = first + 0) = [] := by
        rw [List.filter_eq_nil_iff]
        intro p hp
        have hle := List.le_snd_of_mem_zipIdx hp
        simp only [decide_eq_true_eq]
        omega
      have hhere : decide (first = first + 0) = true := decide_eq_true rfl
      rw [if_pos hhere, hrest]
      rfl
    | succ i =>
      have hne : ¬decide (first = first + (i + 1)) = true := by simp
      have hsum : first + (i + 1) = first + 1 + i := by omega
      rw [if_neg hne, hsum, ih, List.getElem?_cons_succ]

theorem stands_start (provider : String) (hrange : plan[i]? = some range) :
    (start s provider plan).Stands s [] i range := by
  apply Stands.fill
  refine .asked 0 (.inl rfl) ?_ rfl List.not_mem_nil
  have hone := congrArg (List.map fun p ↦ FetchTask.fresh p.1) (filter_zipIdx plan 0 i)
  simpa [tasksOn, ofPlan, List.filter_map, Function.comp_def, hrange, FetchTask.fresh] using hone

end Trace
end UsageReports
