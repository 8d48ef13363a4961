import UsageReports.Proofs.Harvest.ProviderCall

/-!
# Writes of a provider run

What a run emits is written record by record, in the order of emission. Calls for a record are made
until one succeeds or fails for good, or the retries are spent; only then comes the next record.
Whatever the calls come to, each record is tried, and counts as written or as a failure. The run's
tally counts the same records, and they are as many as the planned months.
-/

namespace UsageReports

namespace RecordStore

/-- A call to write a record, and what came of it. -/
structure Attempt where
  record : Record
  result : Except StoreError Unit

/-- Whether these calls, one after the other and no others, lead from one store to another. -/
inductive Attempts : RecordStore → List Attempt → RecordStore → Prop
  | none (s : RecordStore) : Attempts s [] s
  | call {s s' : RecordStore} (r : Record) {later : List Attempt}
      (h : Attempts (s.upsert r).2 later s') : Attempts s (⟨r, (s.upsert r).1⟩ :: later) s'

/-- A record, and what the calls made for it came to. -/
structure Write where
  record : Record
  results : List (Except StoreError Unit)

/-- The calls of a write. -/
def Write.attempts (w : Write) : List Attempt := w.results.map fun result ↦ ⟨w.record, result⟩

/-- Whether a call of a write succeeded. -/
def Write.isWritten (w : Write) : Bool := w.results.any Except.isOk

/-- Whether calls were made as long as there was reason to, and no longer. -/
structure Settled (retries : Nat) (results : List (Except StoreError Unit)) : Prop where
  tried : results ≠ []
  bounded : results.length ≤ retries + 1
  /-- Every call but the last failed for the moment. -/
  again : ∀ result ∈ results.dropLast, ∃ e, result = .error e ∧ e.isTransient = true
  /-- If the last one did so too, the retries were spent. -/
  spent : ∀ e, results.getLast? = some (.error e) → e.isTransient = true →
    results.length = retries + 1

variable {s s' s'' : RecordStore} {retries : Nat}

theorem Attempts.append {before later : List Attempt} (h : s.Attempts before s')
    (hlater : s'.Attempts later s'') : s.Attempts (before ++ later) s'' := by
  induction h with
  | none => exact hlater
  | call r _ ih => exact .call r (ih hlater)

theorem Settled.single {result : Except StoreError Unit}
    (h : ∀ e, result = .error e → e.isTransient = true → retries = 0) :
    Settled retries [result] where
  tried := List.cons_ne_nil _ _
  bounded := Nat.le_add_left _ _
  again _ hr := absurd hr List.not_mem_nil
  spent e he ht := by rw [h e (Option.some.inj he) ht]; rfl

theorem Settled.cons {e : StoreError} (he : e.isTransient = true)
    {results : List (Except StoreError Unit)} (h : Settled retries results) :
    Settled (retries + 1) (.error e :: results) where
  tried := List.cons_ne_nil _ _
  bounded := Nat.succ_le_succ h.bounded
  again := by
    rw [List.dropLast_cons_of_ne_nil h.tried]
    exact List.forall_mem_cons.mpr ⟨⟨e, rfl, he⟩, h.again⟩
  spent e' hlast ht := by
    obtain ⟨first, rest, rfl⟩ := List.exists_cons_of_ne_nil h.tried
    rw [List.getLast?_cons_cons] at hlast
    exact congrArg Nat.succ (h.spent e' hlast ht)

/-- Writing a record makes calls until it is settled. -/
theorem exists_results (s : RecordStore) (r : Record) (retries : Nat) :
    ∃ w : Write, w.record = r ∧ s.Attempts w.attempts (s.persist r retries).2 ∧
      Settled retries w.results ∧ w.isWritten = (s.persist r retries).1.isOk := by
  induction retries generalizing s with
  | zero =>
    exact ⟨⟨r, [(s.upsert r).1]⟩, rfl, .call r (.none _), .single fun _ _ _ ↦ rfl,
      Bool.or_false _⟩
  | succ retries ih =>
    have hone : s.Attempts [⟨r, (s.upsert r).1⟩] (s.upsert r).2 := .call r (.none _)
    rw [persist]
    generalize s.upsert r = answer at hone
    obtain ⟨result, s'⟩ := answer
    cases result with
    | ok u => exact ⟨⟨r, [.ok u]⟩, rfl, hone, .single fun _ h ↦ by contradiction, rfl⟩
    | error e =>
      simp only
      split
      · next ht =>
        obtain ⟨⟨_, results⟩, rfl, hcalls, hsettled, hok⟩ := ih s'
        exact ⟨⟨_, .error e :: results⟩, rfl, hone.append hcalls, hsettled.cons ht, hok⟩
      · next ht =>
        refine ⟨⟨r, [.error e]⟩, rfl, hone, .single ?_, rfl⟩
        intro e' he h
        exact absurd (Except.error.inj he ▸ h) ht

/-- Writing records makes calls for one after the other, and counts those that were written. -/
theorem exists_writes (s : RecordStore) (retries : Nat) (records : List Record) :
    ∃ writes : List Write, writes.map Write.record = records ∧
      s.Attempts (writes.flatMap Write.attempts) (s.persistAll retries records).2 ∧
      (∀ w ∈ writes, Settled retries w.results) ∧
      (s.persistAll retries records).1 =
        ⟨writes.countP Write.isWritten, writes.countP (!·.isWritten)⟩ := by
  induction records generalizing s with
  | nil => exact ⟨[], rfl, .none s, List.forall_mem_nil _, rfl⟩
  | cons r rest ih =>
    obtain ⟨w, rfl, hcalls, hsettled, hok⟩ := s.exists_results r retries
    rw [persistAll]
    generalize s.persist w.record retries = answer at hcalls hok
    obtain ⟨result, s'⟩ := answer
    obtain ⟨writes, rfl, hlater, hall, hcount⟩ := ih s'
    refine ⟨w :: writes, rfl, ?_, List.forall_mem_cons.mpr ⟨hsettled, hall⟩, ?_⟩
    · cases result <;> exact hcalls.append hlater
    · cases result <;>
        simp [hcount, show w.isWritten = _ from hok, Except.isOk, Except.toBool]

end RecordStore

namespace Run

/-- Whether a run's tally counts what it has emitted. -/
structure Tallied (r : Run) : Prop where
  successes : r.tally.successes = r.emitted.countP (!·.isFailure)
  placeholders : r.tally.placeholders = r.emitted.countP (·.isFailure)

variable {settings : RunSettings} {provider : String} {r : Run}

theorem Tallied.records (h : r.Tallied) :
    r.tally.successes + r.tally.placeholders = r.emitted.length := by
  have hsplit := List.length_eq_countP_add_countP Record.isFailure (l := r.emitted)
  rw [h.successes, h.placeholders, hsplit, Nat.add_comm]
  simp

theorem Tallied.step (h : r.Tallied) (hr : r.Underway settings provider) (a : Arrival) :
    (r.step a).Tallied := by
  cases htask : r.inFlight[a.place]? with
  | none =>
    rw [Run.step, settle, htask]
    exact ⟨h.successes, h.placeholders⟩
  | some task =>
    have ht := takes_settle hr.receiving htask a.reply
    constructor
    · change (r.settle a.place a.reply).tally.successes =
        (r.settle a.place a.reply).emitted.countP _
      rw [ht.tally, ht.emitted, List.countP_append, ← h.successes]
      simp [Tally.ofRecords]
    · change (r.settle a.place a.reply).tally.placeholders =
        (r.settle a.place a.reply).emitted.countP _
      rw [ht.tally, ht.emitted, List.countP_append, ← h.placeholders]
      simp [Tally.ofRecords]

/-- At any time the tally counts what was emitted. -/
theorem Tallied.after (h : r.Tallied) (hr : r.Underway settings provider)
    (arrivals : List Arrival) : (r.after arrivals).Tallied := by
  induction arrivals generalizing r with
  | nil => exact h
  | cons a rest ih => exact ih (h.step hr a) (hr.step a)

theorem tallied_start (settings : RunSettings) (provider : String) (plan : List Range) :
    (start settings provider plan).Tallied :=
  ⟨rfl, rfl⟩

end Run

namespace Outfit

open RecordStore (Write Attempts Settled)

variable {σ : Type}

/-- Whether a provider run accounts for each record that its fetches emitted for a plan, where
`writes` are the calls that it made to the store. -/
structure Accounts (o : Outfit σ) (plan : List Range) (emitted : List Record) (s : RecordStore)
    (run : ProviderRun) (after : RecordStore) (writes : List Write) : Prop where
  records : writes.map Write.record = emitted
  calls : s.Attempts (writes.flatMap Write.attempts) after
  settled : ∀ w ∈ writes, Settled o.writeRetries w.results
  written : run.writes.written = writes.countP Write.isWritten
  failures : run.writes.failures = writes.countP (!·.isWritten)
  tally : run.writes.written + run.writes.failures = run.tally.successes + run.tally.placeholders
  planned : run.tally.successes + run.tally.placeholders = (cellsOf plan).length

/-- Nothing is fetched or written where there is nothing to do. -/
theorem blank_of_opening_nothing {o : Outfit σ} {p : Provider} {s : RecordStore}
    {run : ProviderRun} (h : o.opening s p = .ok (.nothing run)) :
    run.tally = {} ∧ run.writes = {} := by
  unfold opening at h
  split at h
  · contradiction
  · split at h
    · obtain rfl := Opening.nothing.inj (Except.ok.inj h)
      exact ⟨rfl, rfl⟩
    · obtain rfl := Opening.nothing.inj (Except.ok.inj h)
      exact ⟨rfl, rfl⟩
    · split at h <;> cases h

/-- Whatever is planned, whatever the replies and their order, and whatever the calls to the store
come to, a run that is over accounts for each record that was emitted, and with them for each
planned month. A provider run is such a run over its plan, if it has anything to fetch; else, and if
it cannot begin, it calls nothing. -/
theorem every_emitted_record_accounted (o : Outfit σ) (p : Provider) (s : RecordStore) :
    (∀ plan arrivals, ((Run.start o.settings.run p.id plan).after arrivals).inFlight = [] →
      let r := (Run.start o.settings.run p.id plan).after arrivals
      ∃ writes, o.Accounts plan r.emitted s (o.concluded p plan r s).1 (o.concluded p plan r s).2
        writes) ∧
    ∀ source,
      (∃ e, o.opening s p = .error e ∧ o.runProvider p s source = (.error e, s, source)) ∨
      (∃ run, o.opening s p = .ok (.nothing run) ∧ run.tally = {} ∧ run.writes = {} ∧
        o.runProvider p s source = (.ok run, s, source)) ∨
      ∃ plan arrivals source', o.opening s p = .ok (.fetch plan) ∧
        let r := (Run.start o.settings.run p.id plan).after arrivals
        r.inFlight = [] ∧ o.runProvider p s source =
          (.ok (o.concluded p plan r s).1, (o.concluded p plan r s).2, source') := by
  constructor
  · intro plan arrivals hend r
    obtain ⟨writes, hrecords, hcalls, hsettled, hcount⟩ := s.exists_writes o.writeRetries r.emitted
    have htallied : r.Tallied := (Run.tallied_start _ _ plan).after (Run.underway_start _ _ plan) _
    have hlength : (r.emitted.map Record.cell).length = (cellsOf plan).length :=
      (Run.cells_of_ended hend).length_eq
    rw [List.length_map] at hlength
    have htotal : writes.countP Write.isWritten + writes.countP (!·.isWritten) =
        r.emitted.length := by
      rw [← hrecords, List.length_map, List.length_eq_countP_add_countP Write.isWritten]
      simp
    have hwritten := congrArg RecordStore.Written.written hcount
    have hfailures := congrArg RecordStore.Written.failures hcount
    refine ⟨writes, hrecords, hcalls, hsettled, hwritten, hfailures, ?_, ?_⟩
    · calc (s.persistAll o.writeRetries r.emitted).1.written +
          (s.persistAll o.writeRetries r.emitted).1.failures
        _ = r.emitted.length := by rw [hwritten, hfailures, htotal]
        _ = r.tally.successes + r.tally.placeholders := htallied.records.symm
    · exact htallied.records.trans hlength
  · intro source
    rcases hopening : o.opening s p with e | run | plan
    · exact Or.inl ⟨e, rfl, by rw [runProvider, hopening]⟩
    · obtain ⟨htally, hwrites⟩ := blank_of_opening_nothing hopening
      exact Or.inr (Or.inl ⟨run, rfl, htally, hwrites, by rw [runProvider, hopening]⟩)
    · obtain ⟨run, after, source', h⟩ := runProvider_returns hopening source
      cases call_of_runProvider h with
      | idle hidle => exact absurd (hopening.symm.trans hidle) (by simp)
      | fetched hfetch _ hrun hend =>
        subst hrun
        obtain rfl := Opening.fetch.inj (Except.ok.inj (hopening.symm.trans hfetch))
        exact Or.inr (Or.inr ⟨plan, _, source', rfl, hend, h⟩)

/-- Of three records one is written when it is tried again, one fails for good, and one is tried
until the only retry is spent. -/
theorem every_emitted_record_accounted_busy :
    let january : Month := .january 2020
    let p : Provider := { id := "p", tenant := "t", reportTypes := ["DR"], start := january }
    let o : Outfit Unit :=
      { settings := {}, writeRetries := 1, lastCompleted := january
        create := fun _ ↦ .ok (), fetch := fun _ source _ ↦ (.died, source) }
    let plan : List Range := [⟨"DR", january, january.succ.succ⟩]
    let r := (Run.start o.settings.run "p" plan).after
      [⟨0, .records [.success "p" "DR" january (.int 7)]⟩]
    let s : RecordStore :=
      { archive := .memory .empty
        writeFaults := [(⟨"p", "DR", january⟩, some (.database .busy)),
          (⟨"p", "DR", january.succ⟩, some (.database .constraint)),
          (⟨"p", "DR", january.succ.succ⟩, some (.database .busy)),
          (⟨"p", "DR", january.succ.succ⟩, some (.database .locked))] }
    let concluded := o.concluded p plan r s
    concluded.1.writes = ⟨1, 2⟩ ∧ concluded.2.writes = 5 ∧
      ∃ writes, o.Accounts plan r.emitted s concluded.1 concluded.2 writes := by
  intro january p o plan r s concluded
  exact ⟨by decide, by decide,
    (every_emitted_record_accounted o p s).1 plan
      [⟨0, .records [.success "p" "DR" january (.int 7)]⟩] (by decide)⟩

end Outfit
end UsageReports
