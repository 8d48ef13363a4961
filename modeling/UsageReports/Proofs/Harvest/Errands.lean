import Mathlib.Algebra.Order.Group.Multiset
import UsageReports.Proofs.Harvest.Course
import UsageReports.Proofs.Plan.Coverage

/-!
# What a task may lead to

A run takes ranges from its queue and puts ranges into it. To count how often each of them is asked
for, every task is given the errand it is on: a planned range, by its place in the plan, or a single
month of one. It may lead to a limited number of entries in a log, which `claim` and `left` say
before and after it was asked for. What a verdict leaves to be done claims no more than was left to
its task.
-/

namespace UsageReports

/-! ### What a reply does to the queues -/

/-- The queue once what a verdict leaves to be done is put into it. Only what is asked for again
goes ahead of the others. -/
def Verdict.enqueue {α : Type} (v : Verdict) (left queue : List α) : List α :=
  match v with
  | .again => left ++ queue
  | .filed _ | .split | .dropped _ => queue ++ left

theorem Verdict.map_enqueue {α β : Type} (f : α → β) (v : Verdict) (left queue : List α) :
    (v.enqueue left queue).map f = v.enqueue (left.map f) (queue.map f) := by
  cases v <;> exact List.map_append

theorem Verdict.enqueue_perm {α : Type} (v : Verdict) (left queue : List α) :
    (v.enqueue left queue).Perm (left ++ queue) := by
  cases v with
  | again => exact .rfl
  | filed returned => exact List.perm_append_comm
  | split => exact List.perm_append_comm
  | dropped reason => exact List.perm_append_comm

namespace FetchTask

variable {limit : Nat} {task : FetchTask} {result : Except FetchError (List Record)}

theorem refused_ne_again (reason : String) : task.refused reason ≠ .again := by
  unfold refused
  split <;> exact Verdict.noConfusion

theorem not_single_of_refused {reason : String} (h : task.refused reason = .split) :
    task.range.isSingle = false := by
  cases hsingle : task.range.isSingle with
  | false => rfl
  | true =>
    rw [refused, if_pos hsingle] at h
    contradiction

/-- A task is asked for again only while attempts are left. -/
theorem lt_of_again (h : task.verdict limit result = .again) : task.attempts + 1 < limit := by
  cases result with
  | ok returned => contradiction
  | error e =>
    cases e with
    | rateLimited =>
      by_cases hlt : task.attempts + 1 < limit
      · exact hlt
      · rw [verdict, if_neg hlt] at h
        exact absurd h (refused_ne_again _)
    | invalidReport reason => exact absurd h (refused_ne_again _)
    | failure reason => contradiction

/-- A single month is not split. -/
theorem not_single_of_split (h : task.verdict limit result = .split) :
    task.range.isSingle = false := by
  cases result with
  | ok returned => contradiction
  | error e =>
    cases e with
    | rateLimited =>
      rw [verdict] at h
      split at h
      · contradiction
      · exact not_single_of_refused h
    | invalidReport reason => exact not_single_of_refused h
    | failure reason => contradiction

end FetchTask

namespace Run

/-- What a verdict on a task does to the queues of a run, whether or not anyone takes its records.
With nobody to take them nothing may be left to do. -/
structure Queues (r : Run) (task : FetchTask) (v : Verdict) (next : Run) : Prop where
  settings : next.settings = r.settings
  queues : next.pending = v.enqueue (task.leaves v) r.pending ∧ next.inFlight = r.inFlight ∨
    next.pending = [] ∧ next.inFlight = []

variable (r : Run) (task : FetchTask)

theorem queues_emit {v : Verdict} (hleaves : task.leaves v = []) (records : List Record) :
    r.Queues task v (r.emit records) := by
  have hkept : v.enqueue (task.leaves v) r.pending = r.pending := by
    rw [hleaves]
    cases v <;> simp [Verdict.enqueue]
  unfold emit
  split
  · exact ⟨rfl, .inl ⟨hkept.symm, rfl⟩⟩
  · split
    · exact ⟨rfl, .inl ⟨hkept.symm, rfl⟩⟩
    · exact ⟨rfl, .inr ⟨rfl, rfl⟩⟩

theorem queues_reject (reason : String) :
    r.Queues task (task.refused reason) (r.reject task reason) := by
  unfold reject FetchTask.refused
  split
  · obtain ⟨hsettings, hqueues⟩ := (r.measure (.fetched r.provider "invalid_report")).queues_emit
      task (v := .dropped reason) rfl (task.range.placeholders r.provider reason)
    exact ⟨hsettings, hqueues⟩
  · exact ⟨rfl, .inl ⟨rfl, rfl⟩⟩

theorem queues_askAgain :
    r.Queues task (task.verdict r.settings.rateLimitAttempts (.error .rateLimited))
      (r.slower.askAgain { task with attempts := task.attempts + 1 }) := by
  by_cases hlt : task.attempts + 1 < r.settings.rateLimitAttempts
  · rw [FetchTask.verdict, if_pos hlt, askAgain, if_pos (by exact hlt)]
    exact ⟨rfl, .inl ⟨rfl, rfl⟩⟩
  · rw [FetchTask.verdict, if_neg hlt, askAgain, if_neg (by exact hlt)]
    -- A refused task leaves the same however often it was asked for.
    have h := r.slower.queues_reject { task with attempts := task.attempts + 1 }
      (outOfAttempts (task.attempts + 1))
    unfold FetchTask.refused at h ⊢
    split at h
    · next hsingle =>
      rw [if_pos hsingle]
      exact ⟨h.settings, h.queues⟩
    · next hsingle =>
      rw [if_neg hsingle]
      exact ⟨h.settings, h.queues⟩

theorem queues_take (result : Except FetchError (List Record)) :
    r.Queues task (task.verdict r.settings.rateLimitAttempts result) (r.take task result) := by
  cases result with
  | ok returned =>
    obtain ⟨hsettings, hqueues⟩ :=
      queues_emit { r.measure (.fetched r.provider "success") with
        tally.fetched := r.tally.fetched + 1 } task (v := .filed returned) rfl
        (task.range.filed r.provider returned)
    exact ⟨hsettings, hqueues⟩
  | error e =>
    cases e with
    | rateLimited => exact r.queues_askAgain task
    | invalidReport reason => exact r.queues_reject task reason
    | failure reason =>
      obtain ⟨hsettings, hqueues⟩ := (r.measure (.fetched r.provider "failure")).queues_emit task
        (v := .dropped reason) rfl (task.range.placeholders r.provider reason)
      exact ⟨hsettings, hqueues⟩

variable {r task}

/-- A reply carries out the verdict on the task at its place, which is no longer in flight. -/
theorem queues_settle {a : Arrival} (htask : r.inFlight[a.place]? = some task) :
    Queues { r with inFlight := r.inFlight.eraseIdx a.place } task
      (task.verdict r.settings.rateLimitAttempts a.reply.result) (r.settle a.place a.reply) := by
  rw [settle, htask]
  exact queues_take _ task a.reply.result

/-- What pends is what a verdict leaves in the queue, or none of it. -/
theorem Queues.take_pending {v : Verdict} {next : Run} (h : r.Queues task v next) :
    (v.enqueue (task.leaves v) r.pending).take next.pending.length = next.pending := by
  rcases h.queues with ⟨hpending, -⟩ | ⟨hpending, -⟩
  · rw [hpending, List.take_length]
  · rw [hpending, List.length_nil, List.take_zero]

/-- What is in flight is what a verdict found there, or none of it. -/
theorem Queues.take_inFlight {v : Verdict} {next : Run} (h : r.Queues task v next) :
    r.inFlight.take next.inFlight.length = next.inFlight := by
  rcases h.queues with ⟨-, hin⟩ | ⟨-, hin⟩
  · rw [hin, List.take_length]
  · rw [hin, List.length_nil, List.take_zero]

end Run

/-! ### Errands -/

/-- What a task is about: the planned range at a place of the plan, or a single month of it. -/
structure Errand where
  place : Nat
  month : Option Month
deriving DecidableEq

/-- Whether an errand over a plan is to ask for a range. -/
inductive Errand.AsksFor (plan : List Range) : Errand → Range → Prop
  | planned {i : Nat} {range : Range} : plan[i]? = some range → AsksFor plan ⟨i, none⟩ range
  | month {i : Nat} {range : Range} {m : Month} : plan[i]? = some range →
      range.isSingle = false → m ∈ range.months →
        AsksFor plan ⟨i, some m⟩ (.single range.reportType m)

/-- What is noted of a run. -/
inductive Entry where
  /-- On an errand, a range was asked for. -/
  | asked (errand : Errand) (range : Range)
  /-- The months of what an errand asked for are asked for one by one. -/
  | narrowed (errand : Errand)
deriving DecidableEq

namespace Entry

def errand : Entry → Errand
  | asked errand _ => errand
  | narrowed errand => errand

/-- The range that was asked for, if any was. -/
def range? : Entry → Option Range
  | asked _ range => some range
  | narrowed _ => none

end Entry

namespace Errand

/-- The errand to ask for a single month. -/
def narrowedTo (e : Errand) (m : Month) : Errand := { e with month := some m }

/-- The tasks that a task leaves to be done, with their errands. -/
def leaves (e : Errand) (task : FetchTask) : Verdict → List (Errand × FetchTask)
  | .again => [(e, { task with attempts := task.attempts + 1 })]
  | .split => task.range.months.map fun m ↦
      (e.narrowedTo m, .fresh (.single task.range.reportType m))
  | .filed _ | .dropped _ => []

/-- What is noted of a verdict. -/
def notes (e : Errand) : Verdict → List Entry
  | .split => [.narrowed e]
  | .again | .filed _ | .dropped _ => []

theorem map_leaves (e : Errand) (task : FetchTask) (v : Verdict) :
    (e.leaves task v).map Prod.snd = task.leaves v := by
  cases v with
  | split =>
    rw [leaves, FetchTask.leaves, Range.expand, List.map_map, List.map_map]
    rfl
  | again => rfl
  | filed returned => rfl
  | dropped reason => rfl

end Errand

/-! ### What a task may lead to -/

namespace Entry

variable (limit : Nat)

/-- The entries that the single months of a range may lead to. -/
def monthly (e : Errand) (range : Range) : Multiset Entry :=
  limit • ((range.months.map fun m ↦ asked (e.narrowedTo m) (.single range.reportType m) :
    List Entry) : Multiset Entry)

/-- The entries that a task may lead to once it was asked for. -/
def left : Errand × FetchTask → Multiset Entry
  | (e, task) => Multiset.replicate (limit - task.attempts - 1) (asked e task.range) +
      if task.range.isSingle then 0 else narrowed e ::ₘ monthly limit e task.range

/-- The entries that a task may lead to. -/
def claim (p : Errand × FetchTask) : Multiset Entry := asked p.1 p.2.range ::ₘ left limit p

/-- The entries that a plan may lead to. -/
def granted (plan : List Range) : Multiset Entry :=
  (plan.zipIdx.map fun (range, i) ↦ claim limit (⟨i, none⟩, .fresh range)).sum

variable {limit}

/-- A range that was not asked for yet may be asked for as often as attempts allow. -/
theorem claim_fresh (h : 1 ≤ limit) (e : Errand) (range : Range) :
    claim limit (e, .fresh range) = Multiset.replicate limit (asked e range) +
      if range.isSingle then 0 else narrowed e ::ₘ monthly limit e range := by
  obtain ⟨n, rfl⟩ := Nat.exists_eq_add_of_le' h
  rw [claim, left, Multiset.replicate_succ, Multiset.cons_add]
  rfl

/-- The single months of a range claim what was left to it for them. -/
theorem sum_claim_split (h : 1 ≤ limit) (e : Errand) (task : FetchTask) :
    ((e.leaves task .split).map (claim limit)).sum = monthly limit e task.range := by
  rw [Errand.leaves, monthly]
  induction task.range.months with
  | nil => exact (nsmul_zero limit).symm
  | cons m rest ih =>
    have hsingle : (Range.single task.range.reportType m).isSingle = true := decide_eq_true rfl
    rw [List.map_cons, List.map_cons, List.sum_cons, ih, claim_fresh h, if_pos hsingle, add_zero,
      List.map_cons, ← Multiset.cons_coe, Multiset.nsmul_cons, Multiset.nsmul_singleton]

/-- What a verdict notes and leaves to be done was left to the task. -/
theorem notes_add_claims_le (s : RunSettings) (e : Errand) (task : FetchTask)
    (result : Except FetchError (List Record)) :
    (e.notes (task.verdict s.rateLimitAttempts result) : Multiset Entry) +
      ((e.leaves task (task.verdict s.rateLimitAttempts result)).map (claim s.attempts)).sum ≤
        left s.attempts (e, task) := by
  cases hv : task.verdict s.rateLimitAttempts result with
  | filed returned => exact Multiset.zero_le _
  | dropped reason => exact Multiset.zero_le _
  | again =>
    have hlt := FetchTask.lt_of_again hv
    have hle : s.rateLimitAttempts ≤ s.attempts := Nat.le_max_right _ _
    obtain ⟨n, hn⟩ := Nat.exists_eq_add_of_lt (hlt.trans_le hle)
    have hnow : s.attempts - task.attempts - 1 = n + 1 := by omega
    have hnext : s.attempts - (task.attempts + 1) - 1 = n := by omega
    apply le_of_eq
    simp [Errand.notes, Errand.leaves, claim, left, hnow, hnext, Multiset.replicate_succ]
  | split =>
    rw [sum_claim_split s.attempts_pos, left, FetchTask.not_single_of_split hv]
    exact Multiset.le_add_left _ _

/-! ### What a plan may lead to -/

theorem mem_claim {x : Entry} {e : Errand} {range : Range} (h : x ∈ claim limit (e, .fresh range)) :
    x = asked e range ∨ range.isSingle = false ∧ (x = narrowed e ∨
      ∃ m ∈ range.months, x = asked (e.narrowedTo m) (.single range.reportType m)) := by
  rcases Multiset.mem_cons.mp h with hnow | hleft
  · exact .inl hnow
  · rcases Multiset.mem_add.mp hleft with hagain | hsplit
    · exact .inl (Multiset.eq_of_mem_replicate hagain)
    · split at hsplit
      · exact absurd hsplit (Multiset.notMem_zero x)
      · next hsingle =>
        refine .inr ⟨Bool.eq_false_iff.mpr hsingle, ?_⟩
        rcases Multiset.mem_cons.mp hsplit with hnarrowed | hmonth
        · exact .inl hnarrowed
        · obtain ⟨m, hm, rfl⟩ := List.mem_map.mp (Multiset.mem_nsmul.mp hmonth).2
          exact .inr ⟨m, hm, rfl⟩

/-- What a range may lead to is about its place. -/
theorem place_of_mem_claim {x : Entry} {i : Nat} {range : Range}
    (h : x ∈ claim limit (⟨i, none⟩, .fresh range)) : x.errand.place = i := by
  rcases mem_claim h with rfl | ⟨-, rfl | ⟨m, -, rfl⟩⟩ <;> rfl

/-- Each entry is about the range at its place. -/
theorem count_granted_from (x : Entry) (plan : List Range) (k : Nat) :
    (((plan.zipIdx k).map fun (range, i) ↦ claim limit (⟨i, none⟩, .fresh range)).sum).count x =
      if x.errand.place < k then 0 else
        (plan[x.errand.place - k]?.map fun range ↦
          (claim limit (⟨x.errand.place, none⟩, .fresh range)).count x).getD 0 := by
  induction plan generalizing k with
  | nil => simp
  | cons range rest ih =>
    rw [List.zipIdx_cons, List.map_cons, List.sum_cons, Multiset.count_add, ih]
    rcases Nat.lt_trichotomy x.errand.place k with hlt | heq | hgt
    · have hnot : x ∉ claim limit (⟨k, none⟩, .fresh range) :=
        fun hx ↦ absurd (place_of_mem_claim hx) (Nat.ne_of_lt hlt)
      rw [if_pos hlt, if_pos (Nat.lt_succ_of_lt hlt)]
      exact Multiset.count_eq_zero_of_notMem hnot
    · rw [if_neg (Nat.not_lt.mpr heq.ge), if_pos (by omega), heq, Nat.sub_self]
      rfl
    · have hnot : x ∉ claim limit (⟨k, none⟩, .fresh range) :=
        fun hx ↦ absurd (place_of_mem_claim hx) (Nat.ne_of_gt hgt)
      obtain ⟨n, hn⟩ := Nat.exists_eq_add_of_lt hgt
      have hsub : x.errand.place - k = n + 1 := by omega
      have hrest : x.errand.place - (k + 1) = n := by omega
      rw [if_neg (by omega), if_neg (by omega), hsub, hrest, List.getElem?_cons_succ]
      exact (congrArg (· + _) (Multiset.count_eq_zero_of_notMem hnot)).trans (Nat.zero_add _)

theorem count_granted (x : Entry) (plan : List Range) :
    (granted limit plan).count x = (plan[x.errand.place]?.map fun range ↦
      (claim limit (⟨x.errand.place, none⟩, .fresh range)).count x).getD 0 := by
  rw [granted, count_granted_from, if_neg (Nat.not_lt_zero _), Nat.sub_zero]

theorem mem_granted {x : Entry} {plan : List Range} (h : x ∈ granted limit plan) :
    ∃ i range, plan[i]? = some range ∧ x ∈ claim limit (⟨i, none⟩, .fresh range) := by
  have hpos := Multiset.count_pos.mpr h
  rw [count_granted] at hpos
  cases hrange : plan[x.errand.place]? with
  | none =>
    rw [hrange] at hpos
    exact absurd hpos (Nat.lt_irrefl 0)
  | some range =>
    rw [hrange] at hpos
    exact ⟨_, range, hrange, Multiset.count_pos.mp hpos⟩

/-- What is asked for is a planned range, or a single month of one that is not a single month. -/
theorem asksFor_of_mem_granted {e : Errand} {range : Range} {plan : List Range}
    (h : asked e range ∈ granted limit plan) : e.AsksFor plan range := by
  obtain ⟨i, planned, hplanned, hclaim⟩ := mem_granted h
  rcases mem_claim hclaim with heq | ⟨hsingle, heq | ⟨m, hm, heq⟩⟩
  · obtain ⟨rfl, rfl⟩ := asked.inj heq
    exact .planned hplanned
  · contradiction
  · obtain ⟨rfl, rfl⟩ := asked.inj heq
    exact .month hplanned hsingle hm

/-- What is narrowed is a planned range, and it is not a single month. -/
theorem not_single_of_mem_granted {e : Errand} {plan : List Range}
    (h : narrowed e ∈ granted limit plan) :
    e.month = none ∧ ∃ range, plan[e.place]? = some range ∧ range.isSingle = false := by
  obtain ⟨i, planned, hplanned, hclaim⟩ := mem_granted h
  rcases mem_claim hclaim with heq | ⟨hsingle, heq | ⟨m, hm, heq⟩⟩
  · contradiction
  · rw [narrowed.inj heq]
    exact ⟨rfl, planned, hplanned, hsingle⟩
  · contradiction

theorem nodup_monthly (e : Errand) (range : Range) :
    (range.months.map fun m ↦ asked (e.narrowedTo m) (.single range.reportType m)).Nodup := by
  apply (Month.nodup_between range.first range.last).map
  intro a b heq
  exact Option.some.inj (congrArg Errand.month (asked.inj heq).1)

theorem not_mem_monthly {x : Entry} {e : Errand} {range : Range}
    (h : ∀ m, x ≠ asked (e.narrowedTo m) (.single range.reportType m)) :
    x ∉ monthly limit e range := by
  intro hx
  obtain ⟨m, -, heq⟩ := List.mem_map.mp (Multiset.mem_nsmul.mp hx).2
  exact h m heq.symm

theorem count_monthly_le (x : Entry) (e : Errand) (range : Range) :
    (monthly limit e range).count x ≤ limit := by
  have hone := List.nodup_iff_count_le_one.mp (nodup_monthly e range) x
  rw [monthly, Multiset.count_nsmul, Multiset.coe_count]
  exact (Nat.mul_le_mul_left limit hone).trans_eq (Nat.mul_one limit)

theorem count_asked_claim_le (h : 1 ≤ limit) (i : Nat) (planned : Range) (e : Errand)
    (range : Range) :
    (claim limit (⟨i, none⟩, .fresh planned)).count (asked e range) ≤ limit := by
  rw [claim_fresh h, Multiset.count_add, Multiset.count_replicate]
  by_cases hplanned : asked ⟨i, none⟩ planned = asked e range
  · have hmonth : asked e range ∉ monthly limit ⟨i, none⟩ planned := by
      rw [← hplanned]
      apply not_mem_monthly
      intro m heq
      exact absurd (congrArg Errand.month (asked.inj heq).1).symm (Option.some_ne_none m)
    rw [if_pos hplanned]
    split
    · exact le_rfl
    · rw [Multiset.count_cons_of_ne Entry.noConfusion, Multiset.count_eq_zero_of_notMem hmonth,
        add_zero]
  · rw [if_neg hplanned, zero_add]
    split
    · exact Nat.zero_le _
    · rw [Multiset.count_cons_of_ne Entry.noConfusion]
      exact count_monthly_le _ _ _

theorem count_narrowed_claim_le (h : 1 ≤ limit) (i : Nat) (planned : Range) (e : Errand) :
    (claim limit (⟨i, none⟩, .fresh planned)).count (narrowed e) ≤ 1 := by
  have hmonth : narrowed e ∉ monthly limit ⟨i, none⟩ planned :=
    not_mem_monthly fun _ ↦ Entry.noConfusion
  rw [claim_fresh h, Multiset.count_add, Multiset.count_replicate, if_neg Entry.noConfusion,
    zero_add]
  split
  · exact Nat.zero_le _
  · rw [Multiset.count_cons, Multiset.count_eq_zero_of_notMem hmonth, zero_add]
    split <;> omega

theorem count_granted_le {bound : Nat} {x : Entry}
    (h : ∀ i range, (claim limit (⟨i, none⟩, .fresh range)).count x ≤ bound) (plan : List Range) :
    (granted limit plan).count x ≤ bound := by
  rw [count_granted]
  cases plan[x.errand.place]? with
  | none => exact Nat.zero_le _
  | some range => exact h _ range

/-- Whether an entry notes that something was asked for. -/
def isAsked (x : Entry) : Bool := x.range?.isSome

theorem countP_monthly (e : Errand) (range : Range) :
    (monthly limit e range).countP (isAsked · = true) = limit * range.months.length := by
  have hall : ∀ x ∈ range.months.map fun m ↦ asked (e.narrowedTo m) (.single range.reportType m),
      isAsked x = true := by
    intro x hx
    obtain ⟨m, -, rfl⟩ := List.mem_map.mp hx
    rfl
  rw [monthly, Multiset.countP_nsmul, Multiset.countP_eq_card.mpr hall, Multiset.coe_card,
    List.length_map]

theorem countP_claim (h : 1 ≤ limit) (e : Errand) (range : Range) :
    (claim limit (e, .fresh range)).countP (isAsked · = true) =
      if range.isSingle then limit else limit * (1 + range.months.length) := by
  have hown : (Multiset.replicate limit (asked e range)).countP (isAsked · = true) = limit := by
    have hall : ∀ x ∈ Multiset.replicate limit (asked e range), isAsked x = true := by
      intro x hx
      rw [Multiset.eq_of_mem_replicate hx]
      rfl
    rw [Multiset.countP_eq_card.mpr hall, Multiset.card_replicate]
  rw [claim_fresh h, Multiset.countP_add, hown]
  split
  · rfl
  · have hnot : ¬(narrowed e).isAsked = true := Bool.false_ne_true
    rw [Multiset.countP_cons, if_neg hnot, countP_monthly, Nat.add_zero, Nat.mul_add, Nat.mul_one]

end Entry

/-- The most fetches that a run over a plan may lead to. -/
def RunSettings.mostFetches (s : RunSettings) (plan : List Range) : Nat :=
  total (plan.map fun range ↦
    if range.isSingle then s.attempts else s.attempts * (1 + range.months.length))

theorem FetchTask.cost_fresh {limit : Nat} (h : 1 ≤ limit) (range : Range) :
    (fresh range).cost limit =
      if range.isSingle then limit else limit * (1 + range.months.length) := by
  change max 1 (limit - 0) + (if range.isSingle then 0 else limit * range.months.length) = _
  rw [Nat.sub_zero, Nat.max_eq_right h, Nat.mul_add, Nat.mul_one]
  by_cases hsingle : range.isSingle = true
  · rw [if_pos hsingle, if_pos hsingle, Nat.add_zero]
  · rw [if_neg hsingle, if_neg hsingle]

theorem Entry.countP_granted (s : RunSettings) (plan : List Range) :
    (granted s.attempts plan).countP (isAsked · = true) = s.mostFetches plan := by
  rw [granted, RunSettings.mostFetches]
  generalize 0 = k
  induction plan generalizing k with
  | nil => rfl
  | cons range rest ih =>
    rw [List.zipIdx_cons, List.map_cons, List.sum_cons, Multiset.countP_add, ih,
      countP_claim s.attempts_pos, List.map_cons, total_cons]

end UsageReports
