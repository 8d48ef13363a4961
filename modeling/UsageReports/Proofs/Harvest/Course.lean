import Mathlib.Algebra.BigOperators.Group.Multiset.Basic
import Mathlib.Tactic.Abel
import UsageReports.Harvest.Work
import UsageReports.Proofs.Harvest.Tallies

/-!
# The course of a run

A run in which replies come in any order. A course is a list of arrivals, each the reply to some
fetch in flight; after each of them the run launches what its limit allows. What an arrival does to
a run is said once, by its verdict on the task, and from it what every course of a run keeps.
-/

namespace UsageReports

/-! ### What becomes of a task -/

/-- What becomes of a task once its fetch has ended. -/
inductive Verdict where
  /-- Its months are filed under what it brought. -/
  | filed (returned : List Record)
  /-- It is asked for again. -/
  | again
  /-- Its months are asked for one by one. -/
  | split
  /-- It is given up. -/
  | dropped (reason : String)

namespace FetchTask

/-- The verdict on a task that was refused: its months may be accepted, a single month is not. -/
def refused (task : FetchTask) (reason : String) : Verdict :=
  if task.range.isSingle then .dropped reason else .split

/-- The verdict on a task, where `limit` is how often it may be asked for. -/
def verdict (limit : Nat) (task : FetchTask) : Except FetchError (List Record) → Verdict
  | .ok returned => .filed returned
  | .error .rateLimited =>
    if task.attempts + 1 < limit then .again
    else task.refused (Run.outOfAttempts (task.attempts + 1))
  | .error (.invalidReport reason) => task.refused reason
  | .error (.failure reason) => .dropped reason

/-- The records that a task emits. -/
def emits (provider : String) (task : FetchTask) : Verdict → List Record
  | .filed returned => task.range.filed provider returned
  | .dropped reason => task.range.placeholders provider reason
  | .again | .split => []

/-- The tasks that a task leaves to be done. -/
def leaves (task : FetchTask) : Verdict → List FetchTask
  | .again => [{ task with attempts := task.attempts + 1 }]
  | .split => task.range.expand.map fresh
  | .filed _ | .dropped _ => []

end FetchTask

/-- What a verdict counts as, apart from the records it emits. -/
def Tally.ofVerdict : Verdict → Tally
  | .filed _ => { fetched := 1 }
  | .split => { narrowed := 1 }
  | .again | .dropped _ => 0

/-- What the end of a fetch counts as in itself. -/
def Tally.ofResult : Except FetchError (List Record) → Tally
  | .error .rateLimited => { rateLimited := 1 }
  | _ => 0

namespace Tally

variable (result : Except FetchError (List Record)) (v : Verdict)

@[simp] theorem fetched_ofResult : (ofResult result).fetched = 0 := by
  rcases result with (_ | _ | _) | _ <;> rfl

@[simp] theorem successes_ofResult : (ofResult result).successes = 0 := by
  rcases result with (_ | _ | _) | _ <;> rfl

@[simp] theorem placeholders_ofResult : (ofResult result).placeholders = 0 := by
  rcases result with (_ | _ | _) | _ <;> rfl

@[simp] theorem narrowed_ofResult : (ofResult result).narrowed = 0 := by
  rcases result with (_ | _ | _) | _ <;> rfl

@[simp] theorem successes_ofVerdict : (ofVerdict v).successes = 0 := by cases v <;> rfl

@[simp] theorem placeholders_ofVerdict : (ofVerdict v).placeholders = 0 := by cases v <;> rfl

@[simp] theorem rateLimited_ofVerdict : (ofVerdict v).rateLimited = 0 := by cases v <;> rfl

end Tally

namespace Run

/-- What a verdict on a task does to a run, where the fetch itself counts as `counted`. -/
structure Takes (r : Run) (task : FetchTask) (verdict : Verdict) (counted : Tally)
    (next : Run) : Prop where
  provider : next.provider = r.provider
  settings : next.settings = r.settings
  receiving : next.receiving = r.receiving
  inFlight : next.inFlight = r.inFlight
  pending : next.pending.Perm (task.leaves verdict ++ r.pending)
  emitted : next.emitted = r.emitted ++ task.emits r.provider verdict
  tally : next.tally = r.tally + counted + Tally.ofVerdict verdict +
    Tally.ofRecords (task.emits r.provider verdict)

section Receiving

variable {r : Run} (hr : r.receiving = true)
include hr

theorem emit_eq (records : List Record) :
    r.emit records = { r with
      emitted := r.emitted ++ records
      tally := r.tally + Tally.ofRecords records } := by
  unfold emit
  rw [if_pos hr, Tally.foldl_emit]

theorem takes_accept (task : FetchTask) (returned : List Record) :
    r.Takes task (.filed returned) 0 (r.accept task returned) := by
  simp only [accept, measure]
  rw [emit_eq (by exact hr)]
  exact ⟨rfl, rfl, rfl, rfl, .rfl, rfl, by ext <;> rfl⟩

theorem takes_giveUp (task : FetchTask) (reason : String) :
    r.Takes task (.dropped reason) 0 (r.giveUp task reason) := by
  simp only [giveUp, measure]
  rw [emit_eq (by exact hr)]
  exact ⟨rfl, rfl, rfl, rfl, .rfl, rfl, by ext <;> rfl⟩

theorem takes_reject (task : FetchTask) (reason : String) :
    r.Takes task (task.refused reason) 0 (r.reject task reason) := by
  unfold reject FetchTask.refused
  split
  · simp only [measure]
    rw [emit_eq (by exact hr)]
    exact ⟨rfl, rfl, rfl, rfl, .rfl, rfl, by ext <;> rfl⟩
  · refine ⟨rfl, rfl, rfl, rfl, List.perm_append_comm, ?_, by ext <;> rfl⟩
    exact (List.append_nil _).symm

theorem takes_askAgain (task : FetchTask) :
    r.Takes task (task.verdict r.settings.rateLimitAttempts (.error .rateLimited))
      { rateLimited := 1 } (r.slower.askAgain { task with attempts := task.attempts + 1 }) := by
  by_cases hagain : task.attempts + 1 < r.settings.rateLimitAttempts
  · have hv : task.verdict r.settings.rateLimitAttempts (.error .rateLimited) = .again :=
      if_pos hagain
    have hn : r.slower.askAgain { task with attempts := task.attempts + 1 } =
        { r.slower with pending := { task with attempts := task.attempts + 1 } :: r.pending } :=
      if_pos hagain
    rw [hv, hn]
    refine ⟨rfl, rfl, rfl, rfl, .rfl, ?_, by ext <;> rfl⟩
    exact (List.append_nil _).symm
  · have hv : task.verdict r.settings.rateLimitAttempts (.error .rateLimited) =
        task.refused (outOfAttempts (task.attempts + 1)) :=
      if_neg hagain
    have hn : r.slower.askAgain { task with attempts := task.attempts + 1 } =
        r.slower.reject { task with attempts := task.attempts + 1 }
          (outOfAttempts (task.attempts + 1)) :=
      if_neg hagain
    have hs : r.slower.receiving = true := hr
    have ht := takes_reject hs { task with attempts := task.attempts + 1 }
      (outOfAttempts (task.attempts + 1))
    rw [hv, hn]
    -- A refused task leaves and emits the same however often it was asked for.
    unfold FetchTask.refused at ht ⊢
    split at ht
    · next hsingle =>
      rw [if_pos hsingle]
      exact ⟨ht.provider, ht.settings, ht.receiving, ht.inFlight, ht.pending, ht.emitted, ht.tally⟩
    · next hsingle =>
      rw [if_neg hsingle]
      exact ⟨ht.provider, ht.settings, ht.receiving, ht.inFlight, ht.pending, ht.emitted, ht.tally⟩

/-- Taking in the end of a fetch carries out the verdict on its task. -/
theorem takes_take (task : FetchTask) (result : Except FetchError (List Record)) :
    r.Takes task (task.verdict r.settings.rateLimitAttempts result) (Tally.ofResult result)
      (r.take task result) := by
  cases result with
  | ok returned => exact takes_accept hr task returned
  | error e =>
    cases e with
    | rateLimited => exact takes_askAgain hr task
    | invalidReport reason => exact takes_reject hr task reason
    | failure reason => exact takes_giveUp hr task reason

/-- Taking in a reply carries out the verdict on the task at its place, which is no longer in
flight. -/
theorem takes_settle {i : Nat} {task : FetchTask} (htask : r.inFlight[i]? = some task)
    (reply : Reply) :
    Takes { r with inFlight := r.inFlight.eraseIdx i } task
      (task.verdict r.settings.rateLimitAttempts reply.result) (Tally.ofResult reply.result)
      (r.settle i reply) := by
  rw [settle, htask]
  exact takes_take (by exact hr) task reply.result

end Receiving

@[simp] theorem limit_emit (r : Run) (records : List Record) :
    (r.emit records).limit = r.limit := by
  unfold emit
  split
  · rfl
  · split <;> rfl

@[simp] theorem limit_reject (r : Run) (task : FetchTask) (reason : String) :
    (r.reject task reason).limit = r.limit := by
  unfold reject
  split
  · exact limit_emit _ _
  · rfl

/-- The limit falls exactly when the source has no time. -/
theorem limit_take (r : Run) (task : FetchTask) (result : Except FetchError (List Record)) :
    (r.take task result).limit =
      match result with
      | .error .rateLimited => r.limit.lowered
      | _ => r.limit := by
  cases result with
  | ok returned => exact limit_emit _ _
  | error e =>
    cases e with
    | rateLimited =>
      change (r.slower.askAgain _).limit = r.limit.lowered
      unfold askAgain
      split
      · rfl
      · exact limit_reject _ _ _
    | invalidReport reason => exact limit_reject _ _ _
    | failure reason => exact limit_emit _ _

/-- No reply takes the limit below one. -/
theorem limit_pos_settle {r : Run} (h : 0 < r.limit.current) (i : Nat) (reply : Reply) :
    0 < (r.settle i reply).limit.current := by
  unfold settle
  split
  · exact h
  · rw [limit_take]
    split
    · exact Nat.one_pos
    · exact h

/-! ### Courses -/

/-- The reply to a fetch, and the place of the fetch among those in flight. -/
structure Arrival where
  place : Nat
  reply : Reply

/-- The start of a run over a plan: the first fetches are launched. -/
def start (settings : RunSettings) (provider : String) (plan : List Range) : Run :=
  (ofPlan settings provider plan).fill

/-- Take in a reply, and launch what the limit allows then. -/
def step (r : Run) (a : Arrival) : Run := (r.settle a.place a.reply).fill

/-- A run after replies, one after the other. -/
def after (r : Run) (arrivals : List Arrival) : Run := arrivals.foldl step r

@[simp] theorem after_nil (r : Run) : r.after [] = r := rfl

@[simp] theorem after_cons (r : Run) (a : Arrival) (rest : List Arrival) :
    r.after (a :: rest) = (r.step a).after rest := rfl

/-- Whether each reply is one that its task may get. -/
def Follows (may : FetchTask → Reply → Prop) : Run → List Arrival → Prop
  | _, [] => True
  | r, a :: rest => (∀ task ∈ r.inFlight[a.place]?, may task a.reply) ∧ Follows may (r.step a) rest

/-- Any replies follow where every reply is allowed. -/
theorem follows_true (r : Run) (arrivals : List Arrival) :
    r.Follows (fun _ _ ↦ True) arrivals := by
  induction arrivals generalizing r with
  | nil => trivial
  | cons a rest ih => exact ⟨fun _ _ ↦ trivial, ih (r.step a)⟩

theorem Follows.mono {may may' : FetchTask → Reply → Prop} {r : Run} {arrivals : List Arrival}
    (h : r.Follows may arrivals) (hmay : ∀ task reply, may task reply → may' task reply) :
    r.Follows may' arrivals := by
  induction arrivals generalizing r with
  | nil => trivial
  | cons a rest ih => exact ⟨fun task htask ↦ hmay task a.reply (h.1 task htask), ih h.2⟩

/-- The course in which the fetches at some places, one after the other, are answered by
`answer`. -/
def answered (answer : FetchTask → Reply) : Run → List Nat → List Arrival
  | _, [] => []
  | r, i :: rest =>
    let a : Arrival := ⟨i, (r.inFlight[i]?.map answer).getD .died⟩
    a :: answered answer (r.step a) rest

theorem follows_answered {may : FetchTask → Reply → Prop} {answer : FetchTask → Reply}
    (h : ∀ task, may task (answer task)) (r : Run) (places : List Nat) :
    r.Follows may (answered answer r places) := by
  induction places generalizing r with
  | nil => trivial
  | cons i rest ih =>
    refine ⟨?_, ih _⟩
    intro task htask
    rw [Option.mem_def.mp htask]
    exact h task

/-- What every course of a run keeps. Tasks wait only while as many fetches as allowed are in
flight. -/
structure Underway (settings : RunSettings) (provider : String) (r : Run) : Prop where
  settings : r.settings = settings
  provider : r.provider = provider
  receiving : r.receiving = true
  limit_pos : 0 < r.limit.current
  full : r.pending ≠ [] → r.limit.current ≤ r.inFlight.length

section Underway

variable {settings : RunSettings} {provider : String} {r : Run}

/-- Launching makes use of the limit. -/
theorem full_fill (r : Run) :
    r.fill.pending ≠ [] → r.fill.limit.current ≤ r.fill.inFlight.length := by
  intro hp
  have hlen : 0 < (r.pending.drop r.room).length := List.length_pos_iff.mpr hp
  rw [List.length_drop] at hlen
  simp only [fill, List.length_append, List.length_take, room] at hlen ⊢
  omega

theorem underway_start (settings : RunSettings) (provider : String) (plan : List Range) :
    (start settings provider plan).Underway settings provider :=
  ⟨rfl, rfl, rfl, Nat.le_max_right _ _, full_fill _⟩

theorem Underway.step (h : r.Underway settings provider) (a : Arrival) :
    (r.step a).Underway settings provider := by
  cases htask : r.inFlight[a.place]? with
  | none =>
    rw [Run.step, settle, htask]
    exact ⟨h.settings, h.provider, h.receiving, h.limit_pos, full_fill _⟩
  | some task =>
    have ht := takes_settle h.receiving htask a.reply
    exact ⟨ht.settings.trans h.settings, ht.provider.trans h.provider,
      ht.receiving.trans h.receiving, limit_pos_settle h.limit_pos _ _, full_fill _⟩

theorem Underway.after (h : r.Underway settings provider) (arrivals : List Arrival) :
    (r.after arrivals).Underway settings provider := by
  induction arrivals generalizing r with
  | nil => exact h
  | cons a rest ih => exact ih (h.step a)

/-- A run with nothing in flight has nothing left to do. -/
theorem Underway.pending_eq_nil (h : r.Underway settings provider) (hf : r.inFlight = []) :
    r.pending = [] := by
  by_cases hp : r.pending = []
  · exact hp
  · have hfull := h.full hp
    rw [hf, List.length_nil] at hfull
    have := h.limit_pos
    omega

/-- What a step emits, it emits for the task that was answered. -/
theorem Underway.mem_emitted_step (h : r.Underway settings provider) {a : Arrival} {x : Record}
    (hx : x ∈ (r.step a).emitted) :
    x ∈ r.emitted ∨ ∃ task ∈ r.inFlight[a.place]?,
      x ∈ task.emits provider (task.verdict settings.rateLimitAttempts a.reply.result) := by
  change x ∈ (r.settle a.place a.reply).emitted at hx
  cases htask : r.inFlight[a.place]? with
  | none =>
    rw [settle, htask] at hx
    exact Or.inl hx
  | some task =>
    rw [(takes_settle h.receiving htask a.reply).emitted, h.settings, h.provider] at hx
    exact (List.mem_append.mp hx).imp_right fun hx ↦ ⟨task, rfl, hx⟩

/-- What a course emits, it emits for tasks that got replies they may get. -/
theorem Underway.mem_emitted_after {may : FetchTask → Reply → Prop}
    (h : r.Underway settings provider) {arrivals : List Arrival} (hmay : r.Follows may arrivals)
    {x : Record} (hx : x ∈ (r.after arrivals).emitted) :
    x ∈ r.emitted ∨ ∃ task reply, may task reply ∧
      x ∈ task.emits provider (task.verdict settings.rateLimitAttempts reply.result) := by
  induction arrivals generalizing r with
  | nil => exact Or.inl hx
  | cons a rest ih =>
    rcases ih (h.step a) hmay.2 hx with hx | hlater
    · exact (h.mem_emitted_step hx).imp_right fun ⟨task, htask, hx⟩ ↦
        ⟨task, a.reply, hmay.1 task htask, hx⟩
    · exact Or.inr hlater

end Underway

/-! ### The end of a course -/

theorem work_step_lt {r : Run} {a : Arrival} (h : a.place < r.inFlight.length) :
    (r.step a).work < r.work := by
  rw [step, work_fill]
  exact r.work_settle_lt h a.reply

/-- Whatever is answered, some course comes to an end. -/
theorem exists_end (answer : FetchTask → Reply) (r : Run) :
    ∃ places, (r.after (r.answered answer places)).inFlight = [] := by
  induction hn : r.work using Nat.strong_induction_on generalizing r with
  | _ n ih =>
    by_cases hf : r.inFlight = []
    · exact ⟨[], hf⟩
    · have hlt : 0 < r.inFlight.length := List.length_pos_iff.mpr hf
      let a : Arrival := ⟨0, (r.inFlight[0]?.map answer).getD .died⟩
      obtain ⟨places, hend⟩ := ih _ (hn ▸ work_step_lt (a := a) hlt) (r.step a) rfl
      exact ⟨0 :: places, hend⟩

/-! ### Accounts -/

/-- What a run has done: the records it emitted, and its tally. -/
def ledger (r : Run) : Multiset Record × Tally := (r.emitted, r.tally)

end Run

/-- What a verdict on a task adds to the ledger of a run. -/
def FetchTask.brings (provider : String) (task : FetchTask) (v : Verdict) :
    Multiset Record × Tally :=
  (task.emits provider v, Tally.ofVerdict v + Tally.ofRecords (task.emits provider v))

/-- What the end of a fetch adds to the ledger of a run. -/
def FetchTask.gain (limit : Nat) (provider : String) (task : FetchTask)
    (result : Except FetchError (List Record)) : Multiset Record × Tally :=
  (0, Tally.ofResult result) + task.brings provider (task.verdict limit result)

namespace Run

/-- What is launched off the front of a queue is only put elsewhere. -/
theorem launched_perm {α : Type} (queue flying : List α) (n : Nat) :
    (queue.drop n ++ (flying ++ queue.take n)).Perm (queue ++ flying) :=
  calc queue.drop n ++ (flying ++ queue.take n)
    _ |>.Perm ((flying ++ queue.take n) ++ queue.drop n) := List.perm_append_comm
    _ = flying ++ queue := by rw [List.append_assoc, List.take_append_drop]
    _ |>.Perm (queue ++ flying) := List.perm_append_comm

section Account

variable {M : Type} [AddCommMonoid M] (f : Multiset Record × Tally →+ M) (owed : FetchTask → M)

/-- What a run has done by an account `f`, and what its tasks still owe by it. -/
def balance (r : Run) : M := f r.ledger + ((r.pending ++ r.inFlight).map owed).sum

/-- Launching leaves every balance as it is. -/
theorem balance_fill (r : Run) : r.fill.balance f owed = r.balance f owed := by
  have hperm : (r.fill.pending ++ r.fill.inFlight).Perm (r.pending ++ r.inFlight) :=
    launched_perm r.pending r.inFlight r.room
  exact congrArg (f r.ledger + ·) (hperm.map owed).sum_eq

variable {f owed}

/-- Taking in the end of a fetch leaves a balance as it is, if what it gains and what it leaves
owing make up what its task owed. -/
theorem balance_take {r : Run} (hr : r.receiving = true) (task : FetchTask)
    (result : Except FetchError (List Record))
    (h : f (task.gain r.settings.rateLimitAttempts r.provider result) +
      ((task.leaves (task.verdict r.settings.rateLimitAttempts result)).map owed).sum =
        owed task) :
    (r.take task result).balance f owed = r.balance f owed + owed task := by
  have ht := takes_take hr task result
  have hledger : (r.take task result).ledger =
      r.ledger + task.gain r.settings.rateLimitAttempts r.provider result := by
    rw [ledger, ht.emitted, ht.tally, ← Multiset.coe_add]
    simp only [ledger, FetchTask.gain, FetchTask.brings, Prod.mk_add_mk, zero_add, add_assoc]
  have hsum := (ht.pending.map owed).sum_eq
  rw [List.map_append, List.sum_append] at hsum
  simp only [balance, hledger, map_add, List.map_append, List.sum_append, hsum, ht.inFlight, ← h]
  abel

/-- Whether every verdict on an allowed reply leaves an account in balance. -/
def Balances (may : FetchTask → Reply → Prop) (limit : Nat) (provider : String)
    (f : Multiset Record × Tally →+ M) (owed : FetchTask → M) : Prop :=
  ∀ task reply, may task reply →
    f (task.gain limit provider reply.result) +
      ((task.leaves (task.verdict limit reply.result)).map owed).sum = owed task

variable {may : FetchTask → Reply → Prop} {settings : RunSettings} {provider : String}

theorem balance_step (hb : Balances may settings.rateLimitAttempts provider f owed) {r : Run}
    (hr : r.Underway settings provider) (a : Arrival)
    (hmay : ∀ task ∈ r.inFlight[a.place]?, may task a.reply) :
    (r.step a).balance f owed = r.balance f owed := by
  rw [step, balance_fill, settle]
  cases htask : r.inFlight[a.place]? with
  | none => rfl
  | some task =>
    obtain ⟨hi, rfl⟩ := List.getElem?_eq_some_iff.mp htask
    have hd := hb _ a.reply (hmay _ htask)
    rw [← hr.settings, ← hr.provider] at hd
    have hperm := ((List.getElem_cons_eraseIdx_perm hi).map owed).sum_eq
    rw [List.map_cons, List.sum_cons] at hperm
    have ht := balance_take (r := { r with inFlight := r.inFlight.eraseIdx a.place })
      hr.receiving _ _ hd
    refine ht.trans ?_
    simp only [balance, ledger, List.map_append, List.sum_append, ← hperm]
    abel

/-- Every course of a run leaves a balance as it is. -/
theorem balance_after (hb : Balances may settings.rateLimitAttempts provider f owed) {r : Run}
    (hr : r.Underway settings provider) (arrivals : List Arrival)
    (hmay : r.Follows may arrivals) : (r.after arrivals).balance f owed = r.balance f owed := by
  induction arrivals generalizing r with
  | nil => rfl
  | cons a rest ih => rw [after_cons, ih (hr.step a) hmay.2, balance_step hb hr a hmay.1]

/-- At the start of a run nothing is done, and the ranges of the plan are owed. -/
theorem balance_start (settings : RunSettings) (provider : String) (plan : List Range) :
    (start settings provider plan).balance f owed =
      (plan.map fun range ↦ owed (.fresh range)).sum := by
  have hzero : f (ofPlan settings provider plan).ledger = 0 := map_zero f
  rw [start, balance_fill, balance, hzero, zero_add]
  simp only [ofPlan, List.append_nil, List.map_map, Function.comp_def]

/-- A run that has come to its end has done by every account what its plan owed. -/
theorem account_of_ended (hb : Balances may settings.rateLimitAttempts provider f owed)
    (plan : List Range) (arrivals : List Arrival)
    (hmay : (start settings provider plan).Follows may arrivals)
    (hend : ((start settings provider plan).after arrivals).inFlight = []) :
    f ((start settings provider plan).after arrivals).ledger =
      (plan.map fun range ↦ owed (.fresh range)).sum := by
  have hu := underway_start settings provider plan
  have hbal := balance_after hb hu arrivals hmay
  rw [balance_start, balance, (hu.after arrivals).pending_eq_nil hend, hend] at hbal
  simpa only [List.append_nil, List.map_nil, List.sum_nil, add_zero] using hbal

end Account
end Run
end UsageReports
