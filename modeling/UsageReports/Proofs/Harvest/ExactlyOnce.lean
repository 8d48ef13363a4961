import UsageReports.Proofs.Harvest.Course
import UsageReports.Proofs.Harvest.Filing

/-!
# Each planned month once

Every month of a plan is at each time either emitted or still to be done, by a task that waits or is
in flight. A run that has come to its end has therefore emitted each of them, as often as it was
planned, and nothing else. What the source answers, and in what order, has no part in it.
-/

namespace UsageReports

/-- The account of the cells of emitted records. -/
def cellAccount : Multiset Record × Tally →+ Multiset (String × Month) :=
  (Multiset.mapAddMonoidHom Record.cell).comp (AddMonoidHom.fst _ _)

namespace FetchTask

/-- The cells that a task is to deliver. -/
def cells (task : FetchTask) : Multiset (String × Month) := task.range.cells

/-- Fresh tasks are to deliver the cells of their ranges. -/
theorem sum_cells_fresh (ranges : List Range) :
    (ranges.map fun range ↦ (fresh range).cells).sum = cellsOf ranges := by
  induction ranges with
  | nil => rfl
  | cons range ranges ih =>
    rw [List.map_cons, List.sum_cons, ih, cellsOf_cons, ← Multiset.coe_add]
    rfl

/-- Whatever becomes of a task, it emits or leaves each of its cells. -/
theorem cells_of_verdict (provider : String) (task : FetchTask) (v : Verdict) :
    cellAccount (task.brings provider v) + ((task.leaves v).map cells).sum = task.cells := by
  have hcells : cellAccount (task.brings provider v) =
      ((task.emits provider v).map Record.cell : List (String × Month)) := rfl
  rw [hcells]
  cases v with
  | filed returned =>
    rw [emits, Range.cells_filed]
    exact add_zero _
  | again =>
    change 0 + (task.cells + 0) = task.cells
    rw [zero_add, add_zero]
  | split =>
    change 0 + ((task.range.expand.map fresh).map cells).sum = _
    rw [zero_add, List.map_map]
    refine (sum_cells_fresh task.range.expand).trans ?_
    rw [Range.cellsOf_expand]
    rfl
  | dropped reason =>
    rw [emits, Range.cells_placeholders]
    exact add_zero _

/-- A task emits in the name of the run's provider. -/
theorem provider_of_mem_emits {provider : String} {task : FetchTask} {v : Verdict} {r : Record}
    (h : r ∈ task.emits provider v) : r.provider = provider := by
  cases v with
  | filed returned => exact Range.provider_of_mem_filed h
  | again => exact absurd h List.not_mem_nil
  | split => exact absurd h List.not_mem_nil
  | dropped reason => exact Range.provider_of_mem_placeholders h

end FetchTask

namespace Run

variable (settings : RunSettings) (provider : String)

/-- Whatever is answered, the account of cells is in balance. -/
theorem balances_cells (may : FetchTask → Reply → Prop) :
    Balances may settings.rateLimitAttempts provider cellAccount FetchTask.cells := by
  intro task reply _
  have hcounts : cellAccount (0, Tally.ofResult reply.result) = 0 := rfl
  rw [FetchTask.gain, map_add, hcounts, zero_add]
  exact task.cells_of_verdict provider _

/-- At any time the cells emitted and those of the tasks at hand are the cells of the plan. -/
theorem cells_after (plan : List Range) (arrivals : List Arrival) :
    ((start settings provider plan).after arrivals).balance cellAccount FetchTask.cells =
      cellsOf plan := by
  have hu := underway_start settings provider plan
  rw [balance_after (balances_cells settings provider _) hu arrivals (follows_true _ _),
    balance_start]
  exact FetchTask.sum_cells_fresh plan

variable {settings provider} {plan : List Range} {arrivals : List Arrival}

/-- At any time the cells emitted are some of those of the plan. -/
theorem cells_emitted_subperm :
    (((start settings provider plan).after arrivals).emitted.map Record.cell).Subperm
      (cellsOf plan) := by
  rw [← Multiset.coe_le, ← cells_after settings provider plan arrivals]
  exact Multiset.le_add_right _ _

/-- The cells of what an ended run has emitted are those of its plan. -/
theorem cells_of_ended (hend : ((start settings provider plan).after arrivals).inFlight = []) :
    (((start settings provider plan).after arrivals).emitted.map Record.cell).Perm
      (cellsOf plan) := by
  have hcells := account_of_ended (balances_cells settings provider _) plan arrivals
    (follows_true _ _) hend
  rw [FetchTask.sum_cells_fresh] at hcells
  exact Multiset.coe_eq_coe.mp hcells

/-- Everything is emitted for a task that was answered. -/
theorem exists_emits_of_mem_emitted {may : FetchTask → Reply → Prop}
    (hmay : (start settings provider plan).Follows may arrivals) {x : Record}
    (hx : x ∈ ((start settings provider plan).after arrivals).emitted) :
    ∃ task reply, may task reply ∧
      x ∈ task.emits provider (task.verdict settings.rateLimitAttempts reply.result) :=
  ((underway_start settings provider plan).mem_emitted_after hmay hx).resolve_left List.not_mem_nil

/-- Everything is emitted in the name of the provider. -/
theorem provider_of_mem_emitted {x : Record}
    (hx : x ∈ ((start settings provider plan).after arrivals).emitted) : x.provider = provider := by
  obtain ⟨task, reply, -, hx⟩ := exists_emits_of_mem_emitted (follows_true _ _) hx
  exact FetchTask.provider_of_mem_emits hx

variable (settings provider plan arrivals)

/-- A run that has come to its end has emitted each planned month, as often as it was planned, and
nothing else, and all in the name of its provider. -/
theorem emitted_exactly_once
    (hend : ((start settings provider plan).after arrivals).inFlight = []) :
    (((start settings provider plan).after arrivals).emitted.map Record.cell).Perm (cellsOf plan) ∧
      ∀ r ∈ ((start settings provider plan).after arrivals).emitted, r.provider = provider :=
  ⟨cells_of_ended hend, fun _ hr ↦ provider_of_mem_emitted hr⟩

/-- Three months are planned, one of them twice; the range of two is refused, and the replies come
in another order than the fetches were launched. -/
theorem emitted_exactly_once_twice_planned :
    let january : Month := .january 2020
    let plan : List Range := [⟨"DR", january, january.succ⟩, ⟨"DR", january, january⟩]
    let replies : List Arrival :=
      [⟨1, .refused .rateLimited⟩, ⟨0, .refused (.invalidReport "no")⟩, ⟨0, .records []⟩,
        ⟨0, .records [.success "q" "DR" january (.int 7)]⟩, ⟨0, .died⟩]
    let r := (start {} "p" plan).after replies
    r.inFlight = [] ∧ (r.emitted.map Record.cell).Perm (cellsOf plan) ∧
      ∀ x ∈ r.emitted, x.provider = "p" :=
  ⟨by decide, emitted_exactly_once {} "p" _ _ (by decide)⟩

end Run
end UsageReports
