import UsageReports.Proofs.Harvest.Course
import UsageReports.Proofs.Harvest.Filing

/-!
# Runs without concurrency

A reference for runs: the ranges of a plan are processed one after the other, each alone. If the
reply to a fetch depends only on its range and on how often the source had no time for it, then a
run that has come to its end has emitted the records of the reference, in some order, and counts the
same, whatever its limit was and in whatever order the replies came.
-/

namespace UsageReports

/-- Records in the order of emission, and the counts of what led to them. -/
structure Yield where
  records : List Record := []
  tally : Tally := {}

namespace Yield

/-- Records that are emitted together, after something that is `counted`. -/
def ofRecords (records : List Record) (counted : Tally) : Yield :=
  ⟨records, counted + Tally.ofRecords records⟩

instance : Append Yield := ⟨fun a b ↦ ⟨a.records ++ b.records, a.tally + b.tally⟩⟩

/-- What comes one after the other. -/
def concat (yields : List Yield) : Yield := yields.foldr (· ++ ·) {}

/-- What was done, in whatever order. -/
def ledger (y : Yield) : Multiset Record × Tally := (y.records, y.tally)

theorem ledger_ofRecords (records : List Record) (counted : Tally) :
    (ofRecords records counted).ledger = (↑records, counted + Tally.ofRecords records) := rfl

@[simp] theorem ledger_append (a b : Yield) : (a ++ b).ledger = a.ledger + b.ledger := rfl

@[simp] theorem ledger_concat (yields : List Yield) :
    (concat yields).ledger = (yields.map ledger).sum := by
  induction yields with
  | nil => rfl
  | cons y ys ih =>
    change (y ++ concat ys).ledger = _
    rw [ledger_append, ih, List.map_cons, List.sum_cons]

end Yield

namespace Sequential

variable (provider : String) (limit : Nat) (answer : Range → Nat → Reply)

/-- Ask for a range, `left` more times at most, until the source has time for it. `attempts` counts
its replies that it has none; after the last one the range counts as refused. -/
def ask (range : Range) (refused : String → Yield) (attempts : Nat) : Nat → Yield
  | 0 => refused (Run.outOfAttempts attempts)
  | left + 1 =>
    match (answer range attempts).result with
    | .ok returned =>
      .ofRecords (range.months.map (range.report provider returned)) { fetched := 1 }
    | .error .rateLimited =>
      { tally := { rateLimited := 1 } } ++ ask range refused (attempts + 1) left
    | .error (.invalidReport reason) => refused reason
    | .error (.failure reason) => .ofRecords (range.placeholders provider reason) 0

/-- Process a single month: refused, it gets a placeholder. -/
def processMonth (range : Range) : Yield :=
  ask provider answer range (fun reason ↦ .ofRecords (range.placeholders provider reason) 0) 0
    (max 1 limit)

/-- What a refused range leads to: its months are processed one by one, unless it is one. -/
def refused (range : Range) (reason : String) : Yield :=
  if range.isSingle then .ofRecords (range.placeholders provider reason) 0
  else { tally := { narrowed := 1 } } ++
    .concat (range.expand.map (processMonth provider limit answer))

/-- Process a range. -/
def process (range : Range) : Yield :=
  ask provider answer range (refused provider limit answer range) 0 (max 1 limit)

/-- Process the ranges of a plan. -/
def run (plan : List Range) : Yield := .concat (plan.map (process provider limit answer))

/-- What a task still leads to. -/
def rest (task : FetchTask) : Yield :=
  ask provider answer task.range (refused provider limit answer task.range) task.attempts
    (max 1 (limit - task.attempts))

theorem rest_fresh (range : Range) :
    rest provider limit answer (.fresh range) = process provider limit answer range := rfl

/-- A month is processed like a range of one month. -/
theorem process_single (t : String) (m : Month) :
    process provider limit answer (.single t m) =
      processMonth provider limit answer (.single t m) := by
  have hsingle : (Range.single t m).isSingle = true := decide_eq_true rfl
  have hrefused : refused provider limit answer (.single t m) =
      fun reason ↦ .ofRecords ((Range.single t m).placeholders provider reason) 0 :=
    funext fun reason ↦ if_pos hsingle
  rw [process, hrefused, processMonth]

/-- What a refused task brings and leaves is what its refusal leads to. -/
theorem ledger_refused (task : FetchTask) (reason : String) :
    task.brings provider (task.refused reason) +
      ((task.leaves (task.refused reason)).map fun task ↦
        (rest provider limit answer task).ledger).sum =
      (refused provider limit answer task.range reason).ledger := by
  unfold refused FetchTask.refused
  split
  · exact add_zero _
  · rw [Yield.ledger_append, Yield.ledger_concat, FetchTask.leaves, Range.expand]
    simp only [List.map_map, Function.comp_def, rest_fresh, process_single]
    rfl

/-- The reply to a task is the answer to its range at its count of attempts. -/
def Answers (task : FetchTask) (reply : Reply) : Prop := reply = answer task.range task.attempts

theorem follows_answers (r : Run) (places : List Nat) :
    r.Follows (Answers answer)
      (r.answered (fun task ↦ answer task.range task.attempts) places) := by
  apply Run.follows_answered
  intro task
  rfl

/-- The account of everything is in balance with what the tasks still lead to. -/
theorem balances_rest :
    Run.Balances (Answers answer) limit provider (AddMonoidHom.id _)
      fun task ↦ (rest provider limit answer task).ledger := by
  rintro task _ rfl
  obtain ⟨left, hleft⟩ : ∃ left, max 1 (limit - task.attempts) = left + 1 :=
    ⟨max 1 (limit - task.attempts) - 1, by omega⟩
  change FetchTask.gain _ _ _ _ + _ = (ask provider answer task.range
    (refused provider limit answer task.range) task.attempts (max 1 (limit - task.attempts))).ledger
  rw [hleft, ask, FetchTask.gain]
  cases hresult : (answer task.range task.attempts).result with
  | ok returned =>
    simp only [← Range.filed_eq, Yield.ledger_ofRecords]
    exact (add_zero _).trans (zero_add _)
  | error e =>
    cases e with
    | rateLimited =>
      by_cases hagain : task.attempts + 1 < limit
      · have hv : task.verdict limit (.error .rateLimited) = .again := if_pos hagain
        have hl : max 1 (limit - (task.attempts + 1)) = left := by omega
        have hnone : task.brings provider .again = 0 := rfl
        rw [hv, hnone, add_zero, FetchTask.leaves, List.map_singleton, List.sum_singleton, rest, hl]
        rfl
      · have hv : task.verdict limit (.error .rateLimited) =
            task.refused (Run.outOfAttempts (task.attempts + 1)) := if_neg hagain
        have hl : left = 0 := by omega
        rw [hv, hl, add_assoc, ledger_refused]
        rfl
    | invalidReport reason =>
      refine (add_assoc _ _ _).trans ((zero_add _).trans ?_)
      exact ledger_refused provider limit answer task reason
    | failure reason => exact (add_zero _).trans (zero_add _)

/-- A run that has come to its end has emitted the records of the reference and counts the same. -/
theorem ledger_of_ended (settings : RunSettings) (plan : List Range) (arrivals : List Run.Arrival)
    (hanswers : (Run.start settings provider plan).Follows (Answers answer) arrivals)
    (hend : ((Run.start settings provider plan).after arrivals).inFlight = []) :
    ((Run.start settings provider plan).after arrivals).ledger =
      (run provider settings.rateLimitAttempts answer plan).ledger := by
  have hbal := balances_rest provider settings.rateLimitAttempts answer
  rw [run, Yield.ledger_concat, List.map_map]
  exact Run.account_of_ended hbal plan arrivals hanswers hend

/-- Two months of one report type and one of another. -/
private def busyPlan : List Range :=
  [⟨"DR", .january 2020, (Month.january 2020).succ⟩, .single "TR" (.january 2020)]

/-- A source that twice has no time for a range of months, breaks down when it is asked again, and
has nothing to say about single months. -/
private def busySource (range : Range) (attempts : Nat) : Reply :=
  if range.isSingle then .records [] else if attempts < 2 then .refused .rateLimited else .died

/-- A run over the plan, `n` fetches at once. -/
private def busyRun (n : Nat) : Run :=
  .start { maxConcurrency := n, rateLimitAttempts := 2 } "p" busyPlan

/-- The course of such a run in which the fetches at some places are answered. -/
private def busyCourse (n : Nat) (places : List Nat) : List Run.Arrival :=
  (busyRun n).answered (fun task ↦ busySource task.range task.attempts) places

end Sequential
end UsageReports
