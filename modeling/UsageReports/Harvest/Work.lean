import UsageReports.Data.Total
import UsageReports.Harvest.Run

/-!
# The work left in a run

A number that falls with every reply, so that a run comes to its end whatever its source answers. It
bounds the fetches that are still to come: each range may be asked for as often as the attempts
allow, and each of its months as often again after a refusal.
-/

namespace UsageReports

/-- How often a range may be asked for before it counts as refused. -/
def RunSettings.attempts (s : RunSettings) : Nat := max 1 s.rateLimitAttempts

theorem RunSettings.attempts_pos (s : RunSettings) : 1 ≤ s.attempts := by
  unfold attempts; omega

/-- How many fetches a task may still lead to. -/
def FetchTask.cost (limit : Nat) (task : FetchTask) : Nat :=
  max 1 (limit - task.attempts) +
    if task.range.isSingle then 0 else limit * task.range.months.length

/-- A task leads to at least one fetch. -/
theorem FetchTask.cost_pos (limit : Nat) (task : FetchTask) : 0 < task.cost limit := by
  unfold cost; omega

/-- The months of a range cost what its refusal leaves. -/
theorem Range.sum_cost_expand (range : Range) {limit : Nat} (h : 1 ≤ limit) :
    total ((range.expand.map FetchTask.fresh).map (FetchTask.cost limit)) =
      limit * range.months.length := by
  have single (m : Month) :
      FetchTask.cost limit (FetchTask.fresh (Range.single range.reportType m)) = limit := by
    simp [FetchTask.cost, FetchTask.fresh, Range.single, Range.isSingle]
    omega
  unfold Range.expand
  induction range.months with
  | nil => simp
  | cons m ms ih => simp only [List.map_cons, total_cons, ih, single, List.length_cons,
      Nat.mul_succ]; omega

private theorem sum_map_eraseIdx {α : Type} (f : α → Nat) (l : List α) {i : Nat}
    (h : i < l.length) : total (l.map f) = f l[i] + total ((l.eraseIdx i).map f) := by
  induction l generalizing i with
  | nil => simp at h
  | cons a rest ih =>
    cases i with
    | zero => simp
    | succ i =>
      have := ih (i := i) (by simpa using h)
      simp only [List.map_cons, total_cons, List.getElem_cons_succ, List.eraseIdx_cons_succ]
      omega

namespace Run

/-- The fetches that a run may still lead to, those in flight included. -/
def work (r : Run) : Nat :=
  total ((r.pending ++ r.inFlight).map (FetchTask.cost r.settings.attempts))

theorem work_eq (r : Run) :
    r.work = total (r.pending.map (FetchTask.cost r.settings.attempts)) +
      total (r.inFlight.map (FetchTask.cost r.settings.attempts)) := by
  simp [work]

/-- Launching changes nothing about what is to be done. -/
theorem work_fill (r : Run) : r.fill.work = r.work := by
  have h := congrArg (fun l => total (l.map (FetchTask.cost r.settings.attempts)))
    (List.take_append_drop r.room r.pending)
  simp only [List.map_append, total_append] at h
  simp only [work_eq, fill, List.map_append, total_append]
  omega

theorem work_emit_le (r : Run) (records : List Record) : (r.emit records).work ≤ r.work := by
  unfold emit
  split
  · simp [work]
  · split <;> simp [work]

theorem work_measure (r : Run) (m : Measure) : (r.measure m).work = r.work := rfl

theorem work_accept_le (r : Run) (task : FetchTask) (returned : List Record) :
    (r.accept task returned).work ≤ r.work :=
  work_emit_le _ _

theorem work_giveUp_le (r : Run) (task : FetchTask) (reason : String) :
    (r.giveUp task reason).work ≤ r.work :=
  work_emit_le _ _

theorem work_reject_lt (r : Run) (task : FetchTask) (reason : String) :
    (r.reject task reason).work < r.work + task.cost r.settings.attempts := by
  unfold reject
  by_cases h : task.range.isSingle
  · have := task.cost_pos r.settings.attempts
    have := work_emit_le (r.measure (.fetched r.provider "invalid_report"))
      (task.range.placeholders r.provider reason)
    rw [work_measure] at this
    simp only [h, if_true]
    exact Nat.lt_of_le_of_lt this (by omega)
  · have hs := task.range.sum_cost_expand r.settings.attempts_pos
    simp only [h, work_eq, measure]
    simp only [FetchTask.cost, h] at hs ⊢
    simp only [Bool.false_eq_true, if_false, List.map_append, total_append] at hs ⊢
    omega

theorem work_askAgain_lt (r : Run) (task : FetchTask) :
    (r.askAgain { task with attempts := task.attempts + 1 }).work <
      r.work + task.cost r.settings.attempts := by
  unfold askAgain
  split
  · rename_i h
    have : r.settings.attempts = r.settings.rateLimitAttempts := by
      unfold RunSettings.attempts; omega
    simp only [work_eq, FetchTask.cost, List.map_cons, total_cons, this] at h ⊢
    omega
  · refine Nat.lt_of_lt_of_le (work_reject_lt r _ _) (Nat.add_le_add_left ?_ _)
    simp only [FetchTask.cost]
    omega

/-- Taking in what a fetch brought leaves less than before the fetch was done. -/
theorem work_take_lt (r : Run) (task : FetchTask) (result : Except FetchError (List Record)) :
    (r.take task result).work < r.work + task.cost r.settings.attempts := by
  have hpos := task.cost_pos r.settings.attempts
  unfold take
  split
  · have := work_accept_le r task ‹_›; omega
  · exact work_askAgain_lt r.slower task
  · exact work_reject_lt r task _
  · have := work_giveUp_le r task ‹_›; omega

/-- Every reply leaves less to do. -/
theorem work_settle_lt (r : Run) {i : Nat} (h : i < r.inFlight.length) (reply : Reply) :
    (r.settle i reply).work < r.work := by
  have hsum := sum_map_eraseIdx (FetchTask.cost r.settings.attempts) r.inFlight h
  have htake := work_take_lt { r with inFlight := r.inFlight.eraseIdx i } r.inFlight[i] reply.result
  simp only [settle, List.getElem?_eq_getElem h]
  simp only [work_eq] at hsum htake ⊢
  omega

end Run

end UsageReports
