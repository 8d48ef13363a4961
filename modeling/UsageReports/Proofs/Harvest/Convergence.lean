import Mathlib
import UsageReports.Proofs.Harvest.ProviderCall

/-!
# Repeated calls settle everything

If a source brings satisfied records or none, a call turns each missing cell into a satisfied record
or into one failure more in a row. So a cell that is still missing after some calls has failed at
least as often, and after as many calls as a provider allows failures nothing is missing.
-/

namespace UsageReports

/-- The failures in a row that are stored under a key. -/
def failuresIn : Option Record → Nat
  | some r => if r.isFailure then r.attempts else 0
  | none => 0

/-- A satisfied record is stored, or a failure more than before. -/
def Advanced (stored after : Option Record) : Prop :=
  ∃ r, after = some r ∧
    (r.isSatisfied = true ∨ r.isFailure = true ∧ r.attempts = failuresIn stored + 1)

/-- Whether a reply brings satisfied records only, if it brings any. -/
def Reply.BringsSatisfied : Reply → Prop
  | .records returned => ∀ r ∈ returned, r.isSatisfied = true
  | _ => True

/-- A satisfied record, or a first failure. -/
def Record.IsFresh (r : Record) : Prop :=
  r.isSatisfied = true ∨ r.isFailure = true ∧ r.attempts = 1

theorem Record.isFresh_placeholder (provider reportType : String) (m : Month) (reason : String) :
    (placeholder provider reportType m reason).IsFresh :=
  Or.inr ⟨rfl, rfl⟩

theorem Range.isFresh_placeholders {range : Range} {provider reason : String} {r : Record}
    (h : r ∈ range.placeholders provider reason) : r.IsFresh := by
  obtain ⟨m, -, rfl⟩ := List.mem_map.mp h
  exact Record.isFresh_placeholder _ _ _ _

theorem Range.isFresh_filed {range : Range} {provider : String} {returned : List Record}
    (hreturned : ∀ r ∈ returned, r.isSatisfied = true) {r : Record}
    (h : r ∈ range.filed provider returned) : r.IsFresh := by
  rw [filed_eq] at h
  obtain ⟨m, -, rfl⟩ := List.mem_map.mp h
  unfold report
  split
  · next r hr => exact Or.inl (hreturned r (cell_of_lastFor hr).1)
  · exact Record.isFresh_placeholder _ _ _ _

/-- Only records are filed. -/
theorem FetchTask.eq_records_of_verdict {limit : Nat} {task : FetchTask} {reply : Reply}
    {returned : List Record} (h : task.verdict limit reply.result = .filed returned) :
    reply = .records returned := by
  have hrefused (reason : String) : task.refused reason ≠ .filed returned := by
    unfold refused
    split <;> exact Verdict.noConfusion
  cases reply with
  | records other =>
    cases h
    rfl
  | refused cause =>
    cases cause with
    | rateLimited =>
      change (if task.attempts + 1 < limit then Verdict.again else _) = _ at h
      split at h
      · cases h
      · exact absurd h (hrefused _)
    | invalidReport reason => exact absurd h (hrefused reason)
    | failure reason => cases h
  | panicked text => cases h
  | died => cases h

/-- Where replies bring satisfied records only, what is emitted is satisfied or a first failure. -/
theorem FetchTask.isFresh_emits {limit : Nat} {provider : String} {task : FetchTask} {reply : Reply}
    (hreply : reply.BringsSatisfied) {r : Record}
    (h : r ∈ task.emits provider (task.verdict limit reply.result)) : r.IsFresh := by
  cases hv : task.verdict limit reply.result with
  | filed returned =>
    rw [hv] at h
    rw [eq_records_of_verdict hv] at hreply
    exact Range.isFresh_filed hreply h
  | again =>
    rw [hv] at h
    exact absurd h List.not_mem_nil
  | split =>
    rw [hv] at h
    exact absurd h List.not_mem_nil
  | dropped reason =>
    rw [hv] at h
    exact Range.isFresh_placeholders h

/-- A satisfied record is no failure. -/
theorem Record.not_isFailure_of_isSatisfied {r : Record} (h : r.isSatisfied = true) :
    r.isFailure = false := by
  cases hf : r.failure with
  | none => simp [isFailure, hf]
  | some reason => simp [isSatisfied, hf] at h

/-- A fresh record that arrives where a cell is not settled advances it. The failures counted there
are fewer than allowed, so that the count does not overflow. -/
theorem Record.IsFresh.advanced {r : Record} (hr : r.IsFresh) {p : Provider}
    (hlimit : p.maxFailedAttempts ≤ maxUInt32) {stored : Option Record}
    (hstored : p.settledBy stored = false) : Advanced stored (r.storedOver stored) := by
  cases stored with
  | none => exact ⟨r, rfl, hr⟩
  | some old =>
    rw [Provider.settledBy, Option.any_some, Bool.or_eq_false_iff] at hstored
    obtain ⟨hsatisfied, hexhausted⟩ := hstored
    rcases hr with hr | ⟨hfailure, hfirst⟩
    · have hover : r.storedOver (some old) = some { r with attempts := 0 } := by
        simp [storedOver, onto, not_isFailure_of_isSatisfied hr]
      exact ⟨_, hover, Or.inl hr⟩
    · by_cases hold : old.isFailure = true
      · have hover : r.storedOver (some old) =
            some { r with attempts := nextAttempt old.attempts } := by
          simp [storedOver, onto, hfailure, hsatisfied, hold]
        have hlt : old.attempts < p.maxFailedAttempts := by
          simpa [isExhausted, hold] using hexhausted
        refine ⟨_, hover, Or.inr ⟨hfailure, ?_⟩⟩
        rw [failuresIn, if_pos hold]
        exact Nat.min_eq_left (by omega)
      · have hover : r.storedOver (some old) = some r := by
          simp [storedOver, onto, hfailure, hsatisfied, hold]
        refine ⟨r, hover, Or.inr ⟨hfailure, ?_⟩⟩
        rw [failuresIn, if_neg hold, hfirst]

/-- A cell that failed as often as allowed is settled. -/
theorem Provider.settledBy_of_le {p : Provider} {stored : Option Record}
    (h : max 1 p.maxFailedAttempts ≤ failuresIn stored) : p.settledBy stored = true := by
  cases stored with
  | none =>
    have : max 1 p.maxFailedAttempts ≤ 0 := h
    omega
  | some r =>
    by_cases hr : r.isFailure = true
    · rw [failuresIn, if_pos hr] at h
      have hle : p.maxFailedAttempts ≤ r.attempts := by omega
      simp [settledBy, Record.isExhausted, hr, hle]
    · rw [failuresIn, if_neg hr] at h
      omega

namespace Outfit

variable {σ : Type} {o : Outfit σ} {p : Provider} {s after : RecordStore} {run : ProviderRun}
  {faults : List (String × StoreError)} {records : Records}

/-- A call whose writes go well advances the missing cells and changes nothing else. -/
theorem Call.advances (hcall : o.Call (fun _ reply ↦ reply.BringsSatisfied) p s run after)
    (hwrites : run.writes.failures = 0) (h : s.Holds faults records) (hd : records.Distinct)
    (hread : faults.lookup p.id = none) (hactive : p.isActive = true)
    (hlimit : p.maxFailedAttempts ≤ maxUInt32) :
    ∃ later, after.Holds faults later ∧ later.Distinct ∧
      (∀ t m, p.Misses (records.existingFor p) o.lastCompleted t m →
        Advanced (records.get? (p.keyOf t m)) (later.get? (p.keyOf t m))) ∧
      ∀ k, (∀ t m, p.Misses (records.existingFor p) o.lastCompleted t m → k ≠ p.keyOf t m) →
        later.get? k = records.get? k := by
  obtain ⟨merged, hafter, hmerged, hall⟩ := hcall.merges h hread
  refine ⟨_, hafter, Records.distinct_upsertAll hd merged, ?_, ?_⟩
  · intro t m hm
    obtain ⟨r, hr, hkey⟩ := hall hactive hwrites t m hm
    obtain ⟨task, reply, hreply, hemits⟩ := hmerged.emitted r hr
    rw [← hkey, Records.get?_upsertAll_of_mem records hmerged.distinct hr, hkey]
    exact (FetchTask.isFresh_emits hreply hemits).advanced hlimit
      ((Records.misses_iff hd t m).mp hm).2.2
  · intro k hk
    apply Records.get?_upsertAll_of_not_mem
    intro hmem
    obtain ⟨r, hr, rfl⟩ := List.mem_map.mp hmem
    apply hk _ _ (hmerged.missing r hr)
    rw [Record.key, hmerged.own r hr]
    rfl

/-- A store after a call: each planned cell is advanced, and what is stored under any other key is
unchanged. -/
def Advances (o : Outfit σ) (p : Provider) (s after : RecordStore) : Prop :=
  ∃ plan, o.planFrom p s = .ok plan ∧
    (∀ t m, (t, m) ∈ cellsOf plan →
      Advanced (s.memory.get? (p.keyOf t m)) (after.memory.get? (p.keyOf t m))) ∧
    ∀ k, (∀ t m, (t, m) ∈ cellsOf plan → k ≠ p.keyOf t m) →
      after.memory.get? k = s.memory.get? k

section Repeated

variable {stores : Nat → RecordStore} {n : Nat}
  (hcalls : ∀ i < n, ∃ run,
    o.Call (fun _ reply ↦ reply.BringsSatisfied) p (stores i) run (stores (i + 1)) ∧
      run.writes.failures = 0)
  (h : (stores 0).Holds faults records) (hd : records.Distinct)
  (hread : faults.lookup p.id = none) (hactive : p.isActive = true)
  (hlimit : p.maxFailedAttempts ≤ maxUInt32)
include hcalls h hd hread hactive hlimit

/-- After `i` calls a cell that is still missing has failed at least `i` times in a row. -/
theorem le_failuresIn_of_calls {i : Nat} (hi : i ≤ n) :
    ∃ later, (stores i).Holds faults later ∧ later.Distinct ∧ ∀ t m,
      p.Misses (later.existingFor p) o.lastCompleted t m →
        i ≤ failuresIn (later.get? (p.keyOf t m)) := by
  induction i with
  | zero => exact ⟨records, h, hd, fun _ _ _ ↦ Nat.zero_le _⟩
  | succ i ih =>
    obtain ⟨before, hbefore, hdistinct, hfailures⟩ := ih (Nat.le_of_succ_le hi)
    obtain ⟨run, hcall, hwrites⟩ := hcalls i hi
    obtain ⟨later, hlater, hdistinct', hmissing, hother⟩ :=
      hcall.advances hwrites hbefore hdistinct hread hactive hlimit
    refine ⟨later, hlater, hdistinct', ?_⟩
    intro t m hm
    obtain ⟨ht, hw, hunsettled⟩ := (Records.misses_iff hdistinct' t m).mp hm
    by_cases hmissed : p.Misses (before.existingFor p) o.lastCompleted t m
    · obtain ⟨r, hr, hadvanced⟩ := hmissing t m hmissed
      rw [hr] at hunsettled ⊢
      rcases hadvanced with hsatisfied | ⟨hfailure, hattempts⟩
      · rw [Provider.settledBy_of_isSatisfied hsatisfied] at hunsettled
        contradiction
      · rw [failuresIn, if_pos hfailure, hattempts]
        exact Nat.succ_le_succ (hfailures t m hmissed)
    · have hsame : later.get? (p.keyOf t m) = before.get? (p.keyOf t m) := by
        apply hother
        intro t' m' hm' hkey
        obtain ⟨rfl, rfl⟩ := Provider.keyOf_inj.mp hkey
        exact hmissed hm'
      rw [hsame] at hunsettled
      exact absurd ((Records.misses_iff hdistinct t m).mpr ⟨ht, hw, hunsettled⟩) hmissed

theorem advances_of_calls {i : Nat} (hi : i < n) : o.Advances p (stores i) (stores (i + 1)) := by
  obtain ⟨before, hbefore, hdistinct, -⟩ :=
    le_failuresIn_of_calls hcalls h hd hread hactive hlimit (Nat.le_of_lt hi)
  obtain ⟨run, hcall, hwrites⟩ := hcalls i hi
  obtain ⟨later, hlater, -, hmissing, hother⟩ :=
    hcall.advances hwrites hbefore hdistinct hread hactive hlimit
  obtain ⟨plan, hplan⟩ : ∃ plan, o.planFrom p (stores i) = .ok plan := Provider.exists_plan hactive
  have hcells := Provider.mem_cellsOf_plan hplan
  rw [hbefore.memory_eq] at hcells
  refine ⟨plan, hplan, ?_, ?_⟩
  · intro t m hm
    rw [hbefore.memory_eq, hlater.memory_eq]
    exact hmissing t m ((hcells t m).mp hm)
  · intro k hk
    rw [hbefore.memory_eq, hlater.memory_eq]
    exact hother k fun t m hm ↦ hk t m ((hcells t m).mpr hm)

/-- After as many calls as failures are allowed, at least one, nothing is missing. -/
theorem planFrom_of_calls (hn : max 1 p.maxFailedAttempts ≤ n) :
    o.planFrom p (stores n) = .ok [] := by
  obtain ⟨later, hlater, hdistinct, hfailures⟩ :=
    le_failuresIn_of_calls hcalls h hd hread hactive hlimit (Nat.le_refl n)
  rw [planFrom, hlater.memory_eq]
  apply Provider.plan_eq_nil hactive
  intro t m hm
  have hsettled := Provider.settledBy_of_le (hn.trans (hfailures t m hm))
  rw [((Records.misses_iff hdistinct t m).mp hm).2.2] at hsettled
  contradiction

end Repeated

/-- A provider whose source can be created, and whose records can be read, can be run. -/
theorem exists_opening (h : s.Holds faults records) (hread : faults.lookup p.id = none)
    (hcreate : o.create p = .ok ()) : ∃ opening, o.opening s p = .ok opening := by
  rw [opening_eq h hread, hcreate]
  split
  · exact ⟨_, rfl⟩
  · exact ⟨_, rfl⟩
  · exact ⟨_, rfl⟩

/-- With the empty plan nothing is fetched and nothing is written. -/
theorem runProvider_of_planFrom (h : s.Holds faults records) (hread : faults.lookup p.id = none)
    (hplan : o.planFrom p s = .ok []) (source : σ) :
    o.runProvider p s source = (.ok { provider := p.id }, s, source) := by
  rw [planFrom, h.memory_eq] at hplan
  rw [runProvider, opening_eq h hread, hplan]

/-- How stores converge that `n` calls for a provider leave one after the other. Each call advances
the planned cells and changes nothing else, and a run of any of the stores returns. After as many
calls as failures are allowed, at least one, the plan is empty, and a further run calls no source
and changes nothing. -/
structure Converges (o : Outfit σ) (p : Provider) (stores : Nat → RecordStore) (n : Nat) :
    Prop where
  advances : ∀ i < n, o.Advances p (stores i) (stores (i + 1))
  returns : ∀ i ≤ n, ∀ source, ∃ run after source',
    o.runProvider p (stores i) source = (.ok run, after, source')
  settled : max 1 p.maxFailedAttempts ≤ n → o.planFrom p (stores n) = .ok [] ∧ ∀ source,
    o.runProvider p (stores n) source = (.ok { provider := p.id }, stores n, source)

theorem converges_of_calls {stores : Nat → RecordStore} {n : Nat}
    (hcalls : ∀ i < n, ∃ run,
      o.Call (fun _ reply ↦ reply.BringsSatisfied) p (stores i) run (stores (i + 1)) ∧
        run.writes.failures = 0)
    (h : (stores 0).Holds faults records) (hd : records.Distinct)
    (hread : faults.lookup p.id = none) (hactive : p.isActive = true)
    (hlimit : p.maxFailedAttempts ≤ maxUInt32) (hcreate : o.create p = .ok ()) :
    o.Converges p stores n := by
  have hreach {i : Nat} (hi : i ≤ n) :=
    le_failuresIn_of_calls hcalls h hd hread hactive hlimit hi
  refine ⟨fun i hi ↦ advances_of_calls hcalls h hd hread hactive hlimit hi, ?_, ?_⟩
  · intro i hi source
    obtain ⟨later, hlater, -, -⟩ := hreach hi
    obtain ⟨opening, hopening⟩ := exists_opening hlater hread hcreate
    exact runProvider_returns hopening source
  · intro hn
    obtain ⟨later, hlater, -, -⟩ := hreach (Nat.le_refl n)
    have hplan := planFrom_of_calls hcalls h hd hread hactive hlimit hn
    exact ⟨hplan, runProvider_of_planFrom hlater hread hplan⟩

/-! ### Runs -/

/-- What a run for a provider makes of a store and a source. -/
def runOnce (o : Outfit σ) (p : Provider) (x : RecordStore × σ) : RecordStore × σ :=
  (o.runProvider p x.1 x.2).2

/-- A call to a store without faults writes everything, and leaves such a store. -/
theorem Call.faultless {may : FetchTask → Reply → Prop} (hcall : o.Call may p s run after)
    (h : s.Holds faults records) (hread : faults.lookup p.id = none) (hw : s.writeFaults = []) :
    run.writes.failures = 0 ∧ after.writeFaults = [] := by
  cases hcall with
  | idle hopening =>
    refine ⟨?_, hw⟩
    rw [opening_eq h hread] at hopening
    split at hopening
    · cases hopening
      rfl
    · cases hopening
      rfl
    · split at hopening <;> cases hopening
  | fetched hopening hmay hrun hend => exact RecordStore.failures_persistAll h hw _ _

/-- A run that fails leaves everything as it was. -/
theorem left_of_runProvider_error {source : σ} {e : JobError} {left : RecordStore × σ}
    (h : o.runProvider p s source = (.error e, left)) : left = (s, source) := by
  unfold runProvider at h
  split at h
  · cases h
    rfl
  · cases h
  · cases h

/-- Runs with a store without faults write everything. -/
theorem faultless_runs (h : s.Holds faults records) (hread : faults.lookup p.id = none)
    (hw : s.writeFaults = []) (source : σ) (i : Nat) (run : ProviderRun) (left : RecordStore × σ)
    (hrun : o.runProvider p ((o.runOnce p)^[i] (s, source)).1 ((o.runOnce p)^[i] (s, source)).2 =
      (.ok run, left)) : run.writes.failures = 0 := by
  have hkept : ((o.runOnce p)^[i] (s, source)).1.writeFaults = [] ∧
      ∃ later, ((o.runOnce p)^[i] (s, source)).1.Holds faults later := by
    clear hrun
    induction i with
    | zero => exact ⟨hw, records, h⟩
    | succ i ih =>
      obtain ⟨hw', later, h'⟩ := ih
      rw [Function.iterate_succ_apply', runOnce]
      generalize (o.runOnce p)^[i] (s, source) = x at hw' h'
      cases hresult : o.runProvider p x.1 x.2 with
      | mk result left =>
        cases result with
        | ok run =>
          have hcall := call_of_runProvider hresult
          obtain ⟨merged, hafter, -⟩ := hcall.merges h' hread
          exact ⟨(hcall.faultless h' hread hw').2, _, hafter⟩
        | error e =>
          rw [left_of_runProvider_error hresult]
          exact ⟨hw', later, h'⟩
  obtain ⟨hw', later, h'⟩ := hkept
  exact ((call_of_runProvider hrun).faultless h' hread hw').1

/-- A source that brings satisfied records or none replies so to every fetch. -/
theorem bringsSatisfied_of_mayReply
    (hbrings : ∀ state range, (o.fetch p state range).1.BringsSatisfied) (task : FetchTask)
    (reply : Reply) (h : Timeline.MayReply (o.fetch p) task reply) : reply.BringsSatisfied := by
  obtain ⟨state, rfl⟩ := h
  exact hbrings state task.range

/-- Each run returns, and is a call with the replies of the source. -/
theorem runs_are_calls {source : σ} {n : Nat} (hactive : p.isActive = true)
    (hlimit : p.maxFailedAttempts ≤ maxUInt32) (hcreate : o.create p = .ok ())
    (h : s.Holds faults records) (hd : records.Distinct) (hread : faults.lookup p.id = none)
    (hbrings : ∀ state range, (o.fetch p state range).1.BringsSatisfied)
    (hwrites : ∀ i < n, ∀ run left,
      o.runProvider p ((o.runOnce p)^[i] (s, source)).1 ((o.runOnce p)^[i] (s, source)).2 =
        (.ok run, left) → run.writes.failures = 0) {i : Nat} (hi : i < n) :
    ∃ run, o.runProvider p ((o.runOnce p)^[i] (s, source)).1 ((o.runOnce p)^[i] (s, source)).2 =
        (.ok run, (o.runOnce p)^[i + 1] (s, source)) ∧
      o.Call (Timeline.MayReply (o.fetch p)) p ((o.runOnce p)^[i] (s, source)).1 run
        ((o.runOnce p)^[i + 1] (s, source)).1 ∧
      run.writes.failures = 0 := by
  induction i using Nat.strong_induction_on with
  | _ i ih =>
    have hcalls : ∀ j < i, ∃ run, o.Call (fun _ reply ↦ reply.BringsSatisfied) p
        ((o.runOnce p)^[j] (s, source)).1 run ((o.runOnce p)^[j + 1] (s, source)).1 ∧
          run.writes.failures = 0 := by
      intro j hj
      obtain ⟨run, -, hcall, hnone⟩ := ih j hj (hj.trans hi)
      exact ⟨run, hcall.mono (bringsSatisfied_of_mayReply hbrings), hnone⟩
    obtain ⟨later, hlater, -, -⟩ :=
      @le_failuresIn_of_calls σ o p faults records (fun j ↦ ((o.runOnce p)^[j] (s, source)).1) i
        hcalls h hd hread hactive hlimit i (Nat.le_refl i)
    obtain ⟨opening, hopening⟩ := exists_opening hlater hread hcreate
    obtain ⟨run, after, source', hrun⟩ :=
      runProvider_returns hopening ((o.runOnce p)^[i] (s, source)).2
    have hnext : (o.runOnce p)^[i + 1] (s, source) = (after, source') := by
      rw [Function.iterate_succ_apply', runOnce, hrun]
    rw [hnext]
    exact ⟨run, hrun, call_of_runProvider hrun, hwrites i hi run _ hrun⟩

/-- Repeated calls for an active provider converge, whatever the order in which replies come in, if
they bring satisfied records or none and the writes go well. So does running the provider again and
again: each run returns, and is such a call. -/
theorem calls_converge (o : Outfit σ) (p : Provider) (hactive : p.isActive = true)
    (hlimit : p.maxFailedAttempts ≤ maxUInt32) (hcreate : o.create p = .ok ())
    (h : s.Holds faults records) (hd : records.Distinct) (hread : faults.lookup p.id = none)
    (n : Nat) :
    (∀ stores : Nat → RecordStore, stores 0 = s →
      (∀ i < n, ∃ run,
        o.Call (fun _ reply ↦ reply.BringsSatisfied) p (stores i) run (stores (i + 1)) ∧
          run.writes.failures = 0) →
      o.Converges p stores n) ∧
    ∀ source : σ, (∀ state range, (o.fetch p state range).1.BringsSatisfied) →
      let x (i : Nat) := (o.runOnce p)^[i] (s, source)
      (∀ i < n, ∀ run left, o.runProvider p (x i).1 (x i).2 = (.ok run, left) →
        run.writes.failures = 0) →
      (∀ i < n, ∃ run, o.runProvider p (x i).1 (x i).2 = (.ok run, x (i + 1)) ∧
        o.Call (Timeline.MayReply (o.fetch p)) p (x i).1 run (x (i + 1)).1) ∧
      o.Converges p (fun i ↦ (x i).1) n := by
  constructor
  · intro stores hstart hcalls
    subst hstart
    exact converges_of_calls hcalls h hd hread hactive hlimit hcreate
  · intro source hbrings x hwrites
    have hruns {i : Nat} (hi : i < n) :=
      runs_are_calls hactive hlimit hcreate h hd hread hbrings hwrites hi
    constructor
    · intro i hi
      obtain ⟨run, hrun, hcall, -⟩ := hruns hi
      exact ⟨run, hrun, hcall⟩
    · apply converges_of_calls _ h hd hread hactive hlimit hcreate
      intro i hi
      obtain ⟨run, -, hcall, hnone⟩ := hruns hi
      exact ⟨run, hcall.mono (bringsSatisfied_of_mayReply hbrings), hnone⟩

section TwoMonths

private def firstMonth : Month := .january 2020

/-- A provider with two months that are asked for until two failures in a row. -/
private def twoMonths : Provider :=
  { id := "p", tenant := "t", reportTypes := ["DR"], start := firstMonth, maxFailedAttempts := 2 }

/-- A source that refuses ranges, and of single months has the first only. -/
private def oneMonth (task : FetchTask) : Reply :=
  if task.range.isSingle = false then .refused (.invalidReport "one month at a time")
  else if task.range.first = firstMonth then .records [.success "p" "DR" firstMonth (.int 7)]
  else .died

private theorem oneMonth_bringsSatisfied (task : FetchTask) : (oneMonth task).BringsSatisfied := by
  unfold oneMonth
  split
  · trivial
  · split
    · intro r hr
      rw [List.mem_singleton.mp hr]
      rfl
    · trivial

private def twoMonthsOutfit : Outfit Unit where
  settings := {}
  lastCompleted := firstMonth.succ
  create _ := .ok ()
  fetch _ source range := (oneMonth (.fresh range), source)

/-- What a call comes to that fetches a plan, the replies coming from some places. -/
private def twoMonthsCall (plan : List Range) (places : List Nat) (s : RecordStore) :
    ProviderRun × RecordStore :=
  let r := Run.start twoMonthsOutfit.settings.run "p" plan
  twoMonthsOutfit.concluded twoMonths plan (r.after (r.answered oneMonth places)) s

private theorem call_twoMonths {plan : List Range} (places : List Nat) {s after : RecordStore}
    (hopening : twoMonthsOutfit.opening s twoMonths = .ok (.fetch plan))
    (hend : ((Run.start twoMonthsOutfit.settings.run "p" plan).after
      ((Run.start twoMonthsOutfit.settings.run "p" plan).answered oneMonth places)).inFlight = [])
    (hafter : (twoMonthsCall plan places s).2 = after)
    (hwrites : (twoMonthsCall plan places s).1.writes.failures = 0) :
    ∃ run, twoMonthsOutfit.Call (fun _ reply ↦ reply.BringsSatisfied) twoMonths s run after ∧
      run.writes.failures = 0 := by
  have hmay := Run.follows_answered oneMonth_bringsSatisfied
    (Run.start twoMonthsOutfit.settings.run "p" plan) places
  rw [← hafter]
  exact ⟨_, .fetched hopening hmay rfl hend, hwrites⟩

/-- The store after the first call, in which the later month was answered first. -/
private def oneFailure : RecordStore where
  archive := .memory
    ⟨[.placeholder "p" "DR" firstMonth.succ "fetch task panicked",
      .success "p" "DR" firstMonth (.int 7)]⟩
  writes := 2

private def twoMonthsStore : Nat → RecordStore
  | 0 => { archive := .memory .empty }
  | 1 => oneFailure
  | _ => (twoMonthsCall [.single "DR" firstMonth.succ] [0] oneFailure).2

/-- Two calls with replies in any order settle both months, and so do two runs of the provider. -/
theorem calls_converge_two_months :
    (∀ i < 2, twoMonthsOutfit.Advances twoMonths (twoMonthsStore i) (twoMonthsStore (i + 1))) ∧
      twoMonthsOutfit.planFrom twoMonths (twoMonthsStore 2) = .ok [] ∧
      let x (i : Nat) := (twoMonthsOutfit.runOnce twoMonths)^[i] (twoMonthsStore 0, ())
      (∀ i < 2, ∃ run, twoMonthsOutfit.runProvider twoMonths (x i).1 (x i).2 =
        (.ok run, x (i + 1))) ∧
      twoMonthsOutfit.planFrom twoMonths (x 2).1 = .ok [] := by
  have hcalls : ∀ i < 2, ∃ run, twoMonthsOutfit.Call (fun _ reply ↦ reply.BringsSatisfied)
      twoMonths (twoMonthsStore i) run (twoMonthsStore (i + 1)) ∧ run.writes.failures = 0 := by
    intro i hi
    match i, hi with
    | 0, _ => exact call_twoMonths [0, 1, 0] (by cbv) (by decide) rfl (by decide)
    | 1, _ => exact call_twoMonths [0] (by cbv) (by decide) rfl (by decide)
  have hempty : (twoMonthsStore 0).Holds [] .empty := ⟨rfl, rfl⟩
  obtain ⟨hanyOrder, hruns⟩ :=
    calls_converge twoMonthsOutfit twoMonths rfl (by decide) rfl hempty Records.distinct_empty rfl 2
  have hconverges := hanyOrder twoMonthsStore rfl hcalls
  obtain ⟨hreturns, hsettled⟩ := hruns () (fun _ range ↦ oneMonth_bringsSatisfied (.fresh range))
    fun i _ ↦ faultless_runs hempty rfl rfl () i
  refine ⟨hconverges.advances, (hconverges.settled (by decide)).1, ?_,
    (hsettled.settled (by decide)).1⟩
  intro i hi
  obtain ⟨run, hrun, -⟩ := hreturns i hi
  exact ⟨run, hrun⟩

end TwoMonths

end Outfit

end UsageReports
