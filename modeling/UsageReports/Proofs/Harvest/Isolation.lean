import UsageReports.Proofs.Harvest.ProviderCall
import UsageReports.Proofs.Settings.Declared

/-!
# Tenants and each other's plans

Records are stored by provider, report type and month, whichever tenant they were fetched for. So
the runs of a tenant can change the plan for a provider of another tenant only where it has a
provider of the same id that asks for the same months, and there they do.
-/

namespace UsageReports

/-- A visit to a provider: what was over by then, and the replies in the order in which they
came. -/
structure Visit where
  provider : Provider
  lastCompleted : Month
  arrivals : List Run.Arrival

/-- Whether a provider asks for a cell once it is over. -/
structure Provider.Covers (p : Provider) (t : String) (m : Month) : Prop where
  requested : t ∈ p.reportTypes
  started : p.start ≤ m
  stopped : ∀ stop ∈ p.stop, m ≤ stop

namespace Outfit

variable {σ : Type}

/-- The same outfit when other months are over. -/
def asOf (o : Outfit σ) (lastCompleted : Month) : Outfit σ := { o with lastCompleted }

/-- The records that a visit brings. -/
def brought (o : Outfit σ) (s : RecordStore) (v : Visit) : List Record :=
  match (o.asOf v.lastCompleted).opening s v.provider with
  | .ok (.fetch plan) => ((Run.start o.settings.run v.provider.id plan).after v.arrivals).emitted
  | _ => []

/-- A store after a visit. -/
def visit (o : Outfit σ) (s : RecordStore) (v : Visit) : RecordStore :=
  (s.persistAll o.writeRetries (o.brought s v)).2

/-- A store after visits, one after the other. -/
def visits (o : Outfit σ) (s : RecordStore) (vs : List Visit) : RecordStore := vs.foldl o.visit s

/-- A store and a source after provider runs, one after the other, each with the last month that was
over by then. -/
def runs (o : Outfit σ) (x : RecordStore × σ) (history : List (Provider × Month)) :
    RecordStore × σ :=
  history.foldl (fun x (p, lastCompleted) ↦ ((o.asOf lastCompleted).runProvider p x.1 x.2).2) x

end Outfit

/-- Whether the plans for a provider do not depend on the runs of a tenant: visits to the tenant may
be left out of every history of the two tenants. -/
def Settings.Isolates (config : Settings) (tenant : String) (p : Provider) : Prop :=
  ∀ (σ : Type) (o : Outfit σ) (records : Records) (vs : List Visit) (lastCompleted : Month),
    o.settings = config.harvest → records.Distinct →
    (∀ v ∈ vs, v.provider ∈ config.providers ∧
      (v.provider.tenant = tenant ∨ v.provider.tenant = p.tenant)) →
    (o.asOf lastCompleted).planFrom p (o.visits { archive := .memory records } vs) =
      (o.asOf lastCompleted).planFrom p
        (o.visits { archive := .memory records } (vs.filter (·.provider.tenant ≠ tenant)))

namespace Outfit

variable {σ : Type} {o : Outfit σ} {p : Provider} {s s' : RecordStore} {records records' : Records}

theorem brought_of_fetch {v : Visit} {plan : List Range}
    (hopening : (o.asOf v.lastCompleted).opening s v.provider = .ok (.fetch plan)) :
    o.brought s v =
      ((Run.start o.settings.run v.provider.id plan).after v.arrivals).emitted := by
  rw [brought, hopening]

theorem brought_of_not_fetch {v : Visit}
    (h : ∀ plan, (o.asOf v.lastCompleted).opening s v.provider ≠ .ok (.fetch plan)) :
    o.brought s v = [] := by
  unfold brought
  split
  · next plan hopening => exact absurd hopening (h plan)
  · rfl

/-- What a provider run leaves in the store is what some visit leaves there. -/
theorem exists_visit_of_runProvider (o : Outfit σ) (p : Provider) (s : RecordStore) (source : σ) :
    ∃ arrivals, (o.runProvider p s source).2.1 = o.visit s ⟨p, o.lastCompleted, arrivals⟩ := by
  have hidle (h : ∀ plan, o.opening s p ≠ .ok (.fetch plan)) :
      o.visit s ⟨p, o.lastCompleted, []⟩ = s := by
    have hnone : o.brought s ⟨p, o.lastCompleted, []⟩ = [] := brought_of_not_fetch h
    rw [visit, hnone]
    rfl
  cases hopening : o.opening s p with
  | error e =>
    refine ⟨[], ?_⟩
    rw [hidle (by simp [hopening]), runProvider, hopening]
  | ok opening =>
    cases opening with
    | nothing run =>
      refine ⟨[], ?_⟩
      rw [hidle (by simp [hopening]), runProvider, hopening]
    | fetch plan =>
      obtain ⟨arrivals, -, hrun, -⟩ :=
        o.course_of_finish p plan source (o.launch p plan source).timeline.source
      have hbrought : o.brought s ⟨p, o.lastCompleted, arrivals⟩ = _ := brought_of_fetch hopening
      refine ⟨arrivals, ?_⟩
      rw [visit, hbrought, runProvider, hopening]
      change (s.persistAll o.writeRetries (o.finish _ _).timeline.run.emitted).2 = _
      rw [hrun]

/-- What provider runs leave in the store is what some visits to the same providers leave there. -/
theorem exists_visits_of_runs (o : Outfit σ) (x : RecordStore × σ)
    (history : List (Provider × Month)) :
    ∃ vs : List Visit, vs.map (fun v ↦ (v.provider, v.lastCompleted)) = history ∧
      (o.runs x history).1 = o.visits x.1 vs := by
  induction history generalizing x with
  | nil => exact ⟨[], rfl, rfl⟩
  | cons run history ih =>
    obtain ⟨p, lastCompleted⟩ := run
    obtain ⟨arrivals, hvisit⟩ := exists_visit_of_runProvider (o.asOf lastCompleted) p x.1 x.2
    obtain ⟨vs, hmap, hruns⟩ := ih ((o.asOf lastCompleted).runProvider p x.1 x.2).2
    refine ⟨⟨p, lastCompleted, arrivals⟩ :: vs, by rw [List.map_cons, hmap], ?_⟩
    rw [runs, List.foldl_cons, ← runs, hruns, hvisit]
    rfl

/-- A visit brings cells that its provider covers, and only where it is active. -/
theorem covers_of_mem_brought (h : s.Holds [] records) {v : Visit} {r : Record}
    (hr : r ∈ o.brought s v) :
    v.provider.isActive = true ∧ r.provider = v.provider.id ∧
      v.provider.Covers r.reportType r.month := by
  by_cases hfetch : ∃ plan, (o.asOf v.lastCompleted).opening s v.provider = .ok (.fetch plan)
  · obtain ⟨plan, hopening⟩ := hfetch
    rw [brought_of_fetch hopening] at hr
    have hplan := plan_of_opening_fetch h rfl hopening
    have hmerges := merges_emitted hplan (Run.follows_true _ v.arrivals)
    obtain ⟨ht, hm, -⟩ := hmerges.missing r hr
    obtain ⟨hstart, -, hstop⟩ := (Provider.mem_wantedMonths _ _ _).mp hm
    exact ⟨Provider.isActive_of_plan hplan, hmerges.own r hr, ht, hstart, hstop⟩
  · rw [brought_of_not_fetch (not_exists.mp hfetch)] at hr
    exact absurd hr List.not_mem_nil

/-- A visit to a store in memory without faults merges what it brings. -/
theorem holds_visit (h : s.Holds [] records) (hw : s.writeFaults = []) (v : Visit) :
    (o.visit s v).Holds [] (records.upsertAll (o.brought s v)) ∧
      (o.visit s v).writeFaults = [] := by
  obtain ⟨hfailures, hfaults⟩ := RecordStore.failures_persistAll h hw o.writeRetries (o.brought s v)
  obtain ⟨merged, -, hall, hholds⟩ :=
    RecordStore.holds_persistAll h o.writeRetries (o.brought s v)
  rw [hall hfailures] at hholds
  exact ⟨hholds, hfaults⟩

end Outfit

/-! ### Isolation -/

/-- Whether two stores have the same under the keys that a provider's plans depend on. -/
def Provider.AgreeOn (p : Provider) (s s' : Records) : Prop :=
  ∀ t m, p.Covers t m → s.get? (p.keyOf t m) = s'.get? (p.keyOf t m)

namespace Provider.AgreeOn

variable {p : Provider} {s s' : Records}

/-- Records of other keys leave stores in agreement. -/
theorem upsertAll_left (h : p.AgreeOn s s') {arrivals : List Record}
    (hother : ∀ r ∈ arrivals, ∀ t m, p.Covers t m → r.key ≠ p.keyOf t m) :
    p.AgreeOn (s.upsertAll arrivals) s' := by
  intro t m hc
  rw [← h t m hc]
  apply Records.get?_upsertAll_of_not_mem
  intro hmem
  obtain ⟨r, hr, hkey⟩ := List.mem_map.mp hmem
  exact hother r hr t m hc hkey

theorem symm (h : p.AgreeOn s s') : p.AgreeOn s' s := fun t m hc ↦ (h t m hc).symm

/-- The same records leave stores in agreement. -/
theorem upsertAll (h : p.AgreeOn s s') (arrivals : List Record) :
    p.AgreeOn (s.upsertAll arrivals) (s'.upsertAll arrivals) := by
  intro t m hc
  rw [Records.get?_upsertAll, Records.get?_upsertAll, h t m hc]

/-- Stores in agreement lead to the same plan. -/
theorem plan_eq (h : p.AgreeOn s s') (hd : s.Distinct) (hd' : s'.Distinct) (packing : Packing)
    (lastCompleted : Month) :
    p.plan packing (s.existingFor p) lastCompleted =
      p.plan packing (s'.existingFor p) lastCompleted := by
  apply Records.plan_existingFor_congr hd hd'
  intro t ht m hm
  obtain ⟨hstart, -, hstop⟩ := (mem_wantedMonths _ _ _).mp hm
  rw [h t m ⟨ht, hstart, hstop⟩]

end Provider.AgreeOn

namespace Outfit

variable {σ : Type} {o : Outfit σ} {p : Provider} {s s' : RecordStore} {records records' : Records}

/-- From stores in agreement a visit to the provider brings the same. -/
theorem brought_eq (h : s.Holds [] records) (h' : s'.Holds [] records') (hd : records.Distinct)
    (hd' : records'.Distinct) {v : Visit} (hagree : v.provider.AgreeOn records records') :
    o.brought s v = o.brought s' v := by
  have hopening : (o.asOf v.lastCompleted).opening s v.provider =
      (o.asOf v.lastCompleted).opening s' v.provider := by
    rw [opening_eq h rfl, opening_eq h' rfl, hagree.plan_eq hd hd']
  rw [brought, brought, hopening]

end Outfit

section Isolates

variable {σ : Type} {o : Outfit σ} {config : Settings} {tenant : String} {p : Provider}

/-- Whether an active provider of a tenant covers a cell under the id of another provider. -/
def Settings.Shares (config : Settings) (tenant : String) (p : Provider) : Prop :=
  ∃ q ∈ config.providers, q.tenant = tenant ∧ q.isActive = true ∧ q.id = p.id ∧
    ∃ t m, q.Covers t m ∧ p.Covers t m

/-- Without shared cells visits to the tenant may be left out: the two stores stay in agreement. -/
theorem agreeOn_visits (hvalid : config.validate = .ok ()) (hp : p ∈ config.providers)
    (hapart : ¬ config.Shares tenant p) {vs : List Visit}
    (hvs : ∀ v ∈ vs, v.provider ∈ config.providers ∧
      (v.provider.tenant = tenant ∨ v.provider.tenant = p.tenant))
    {s s' : RecordStore} {records records' : Records} (h : s.Holds [] records)
    (h' : s'.Holds [] records') (hw : s.writeFaults = []) (hw' : s'.writeFaults = [])
    (hd : records.Distinct) (hd' : records'.Distinct) (hagree : p.AgreeOn records records') :
    ∃ later later', (o.visits s vs).Holds [] later ∧
      (o.visits s' (vs.filter (·.provider.tenant ≠ tenant))).Holds [] later' ∧
      later.Distinct ∧ later'.Distinct ∧ p.AgreeOn later later' := by
  induction vs generalizing s s' records records' with
  | nil => exact ⟨records, records', h, h', hd, hd', hagree⟩
  | cons v vs ih =>
    obtain ⟨hv, htenant⟩ := hvs v List.mem_cons_self
    have hrest : ∀ v ∈ vs, v.provider ∈ config.providers ∧
      (v.provider.tenant = tenant ∨ v.provider.tenant = p.tenant) :=
      fun v hv ↦ hvs v (List.mem_cons_of_mem _ hv)
    obtain ⟨hvisit, hwv⟩ := Outfit.holds_visit (o := o) h hw v
    have hdv := Records.distinct_upsertAll hd (o.brought s v)
    by_cases ht : v.provider.tenant = tenant
    · have hfilter : (v :: vs).filter (·.provider.tenant ≠ tenant) =
          vs.filter (·.provider.tenant ≠ tenant) := by
        rw [List.filter_cons, if_neg (by simpa using ht)]
      rw [hfilter]
      refine ih hrest hvisit h' hwv hw' hdv hd' (hagree.upsertAll_left ?_)
      intro r hr t m hc hkey
      obtain ⟨hactive, hid, hcovers⟩ := Outfit.covers_of_mem_brought h hr
      obtain ⟨hid', rfl, rfl⟩ := Record.Key.mk.inj hkey
      exact hapart ⟨v.provider, hv, ht, hactive, hid.symm.trans hid', _, _, hcovers, hc⟩
    · have hfilter : (v :: vs).filter (·.provider.tenant ≠ tenant) =
          v :: vs.filter (·.provider.tenant ≠ tenant) := by
        rw [List.filter_cons, if_pos (by simpa using ht)]
      rw [hfilter]
      obtain ⟨hvisit', hwv'⟩ := Outfit.holds_visit (o := o) h' hw' v
      have hdv' := Records.distinct_upsertAll hd' (o.brought s' v)
      refine ih hrest hvisit hvisit' hwv hwv' hdv hdv' ?_
      by_cases hid : v.provider.id = p.id
      · -- In valid settings the provider is the only one of its tenant with its id.
        have hvp : v.provider = p :=
          Settings.eq_of_validate hvalid hv hp (htenant.resolve_left ht) hid
        rw [Outfit.brought_eq h h' hd hd' (hvp ▸ hagree)]
        exact hagree.upsertAll _
      · have hother {s : RecordStore} {records : Records} (h : s.Holds [] records) :
            ∀ r ∈ o.brought s v, ∀ t m, p.Covers t m → r.key ≠ p.keyOf t m := by
          intro r hr t m _ hkey
          obtain ⟨-, hrid, -⟩ := Outfit.covers_of_mem_brought h hr
          exact hid (hrid.symm.trans (Record.Key.mk.inj hkey).1)
        exact ((hagree.upsertAll_left (hother h)).symm.upsertAll_left (hother h')).symm

/-- Without shared cells a tenant has no part in the plans for a provider of another tenant. -/
theorem isolates_of_not_shares (hvalid : config.validate = .ok ()) (hp : p ∈ config.providers)
    (hapart : ¬ config.Shares tenant p) : config.Isolates tenant p := by
  intro σ o records vs lastCompleted _ hd hvs
  have hholds : ({ archive := .memory records } : RecordStore).Holds [] records := ⟨rfl, rfl⟩
  obtain ⟨later, later', h, h', hd, hd', hagree⟩ := agreeOn_visits (o := o) hvalid hp hapart hvs
    hholds hholds rfl rfl hd hd (fun _ _ _ ↦ rfl)
  rw [Outfit.planFrom, Outfit.planFrom, h.memory_eq, h'.memory_eq]
  exact hagree.plan_eq hd hd' _ _

/-- An inactive provider has no plan, so that nobody has a part in it. -/
theorem isolates_of_not_isActive (hactive : p.isActive ≠ true) : config.Isolates tenant p := by
  intro σ o records vs lastCompleted _ _ _
  have hnone (existing : List Record) :
      p.plan o.settings.packing existing lastCompleted = .error (.notActive p.id) := if_neg hactive
  exact (hnone _).trans (hnone _).symm

/-! ### Shared cells -/

/-- A source that has every month of every range. -/
def everyMonth (task : FetchTask) : Reply :=
  .records (task.range.months.map fun m ↦ .success "" task.range.reportType m .null)

/-- From such a source everything is satisfied. -/
theorem isSatisfied_everyMonth {limit : Nat} {provider : String} {task : FetchTask} {r : Record}
    (h : r ∈ task.emits provider (task.verdict limit (everyMonth task).result)) :
    r.isSatisfied = true := by
  change r ∈ task.range.filed provider _ at h
  rw [Range.filed_eq] at h
  obtain ⟨m, hm, rfl⟩ := List.mem_map.mp h
  unfold Range.report
  split
  · next found hfound =>
    obtain ⟨n, -, rfl⟩ := List.mem_map.mp (cell_of_lastFor hfound).1
    rfl
  · next hnone =>
    have hnil := List.getLast?_eq_none_iff.mp hnone
    have hmem : Record.success "" task.range.reportType m .null ∈
        task.range.months.map fun m ↦ Record.success "" task.range.reportType m .null :=
      List.mem_map_of_mem hm
    exact absurd (by simp [Record.success]) (List.filter_eq_nil_iff.mp hnil _ hmem)

/-- Where nothing is stored each covered cell is missing once it is over. -/
theorem Provider.Covers.misses {t : String} {m : Month} (h : p.Covers t m) :
    p.Misses (Records.empty.existingFor p) m t m := by
  apply (Records.misses_iff Records.distinct_empty t m).mpr
  refine ⟨h.requested, (Provider.mem_wantedMonths p m m).mpr ?_, rfl⟩
  exact ⟨h.started, Month.le_refl m, h.stopped⟩

/-- Some visit to a provider satisfies a cell that it covers. -/
theorem exists_satisfying_visit (o : Outfit σ) (hcreate : o.create p = .ok ())
    (hactive : p.isActive = true) {t : String} {m : Month} (hcovers : p.Covers t m)
    {s : RecordStore} (h : s.Holds [] .empty) (hw : s.writeFaults = []) :
    ∃ v : Visit, v.provider = p ∧ ∃ later, (o.visit s v).Holds [] later ∧ later.Distinct ∧
      ∃ r, later.get? (p.keyOf t m) = some r ∧ r.isSatisfied = true := by
  obtain ⟨plan, hplan⟩ : ∃ plan, p.plan (o.asOf m).settings.packing (Records.empty.existingFor p)
    (o.asOf m).lastCompleted = .ok plan := Provider.exists_plan hactive
  have hopening : (o.asOf m).opening s p = .ok (.fetch plan) := by
    have hcreate : (o.asOf m).create p = .ok () := hcreate
    rw [Outfit.opening_eq h rfl, hplan, hcreate]
    cases plan with
    | nil =>
      exact absurd ((Provider.mem_cellsOf_plan hplan t m).mpr hcovers.misses) List.not_mem_nil
    | cons range plan => rfl
  let r₀ := Run.start o.settings.run p.id plan
  obtain ⟨places, hend⟩ := Run.exists_end everyMonth r₀
  have hmay : r₀.Follows (fun task reply ↦ reply = everyMonth task)
      (r₀.answered everyMonth places) := by
    apply Run.follows_answered
    intro task
    rfl
  let v : Visit := ⟨p, m, r₀.answered everyMonth places⟩
  have hbrought : o.brought s v = (r₀.after (r₀.answered everyMonth places)).emitted :=
    Outfit.brought_of_fetch hopening
  obtain ⟨r, hr, hkey⟩ := Outfit.exists_emitted_of_misses hplan hend hcovers.misses
  obtain ⟨task, _, rfl, hemits⟩ := Run.exists_emits_of_mem_emitted hmay hr
  have hdistinct := (Outfit.merges_emitted hplan hmay).distinct
  refine ⟨v, rfl, _, (Outfit.holds_visit h hw v).1,
    Records.distinct_upsertAll Records.distinct_empty _, r, ?_, isSatisfied_everyMonth hemits⟩
  rw [hbrought, ← hkey]
  exact Records.get?_upsertAll_of_mem _ hdistinct hr

/-- Where a tenant shares a cell with an active provider, a visit to the tenant changes its plan. -/
theorem not_isolates_of_shares (hactive : p.isActive = true) (h : config.Shares tenant p) :
    ¬ config.Isolates tenant p := by
  obtain ⟨q, hq, htenant, hqactive, hid, t, m, hqcovers, hcovers⟩ := h
  intro hisolates
  let o : Outfit Unit :=
    { settings := config.harvest, lastCompleted := m, create := fun _ ↦ .ok ()
      fetch := fun _ source range ↦ (everyMonth (.fresh range), source) }
  have hs : ({ archive := .memory .empty } : RecordStore).Holds [] .empty := ⟨rfl, rfl⟩
  obtain ⟨v, hv, later, hlater, hdistinct, r, hr, hsatisfied⟩ :=
    exists_satisfying_visit o rfl hqactive hqcovers hs rfl
  have hvs : ∀ w ∈ [v], w.provider ∈ config.providers ∧
      (w.provider.tenant = tenant ∨ w.provider.tenant = p.tenant) := by
    intro w hw
    rw [List.mem_singleton.mp hw, hv]
    exact ⟨hq, Or.inl htenant⟩
  have hsame := hisolates Unit o .empty [v] m rfl Records.distinct_empty hvs
  have hfilter : [v].filter (·.provider.tenant ≠ tenant) = [] := by simp [hv, htenant]
  obtain ⟨plan, hplan⟩ : ∃ plan,
      p.plan o.settings.packing (Records.empty.existingFor p) m = .ok plan :=
    Provider.exists_plan hactive
  have hlaterPlan : p.plan o.settings.packing (later.existingFor p) m = .ok plan := by
    rw [← hplan, ← hlater.memory_eq]
    rw [hfilter] at hsame
    exact hsame
  -- The cell is in the plan, though it is satisfied by then.
  have hcell := (Provider.mem_cellsOf_plan hplan t m).mpr hcovers.misses
  have hmissed := (Provider.mem_cellsOf_plan hlaterPlan t m).mp hcell
  obtain ⟨-, -, hunsettled⟩ := (Records.misses_iff hdistinct t m).mp hmissed
  have hkey : p.keyOf t m = q.keyOf t m := by rw [Provider.keyOf, ← hid]; rfl
  rw [hkey, hr, Provider.settledBy_of_isSatisfied hsatisfied] at hunsettled
  contradiction

/-- A tenant has no part in the plans for an active provider exactly where it shares no cell with
it. Visits stand for the runs of providers: what these leave in the store, some visits to the same
providers leave there. -/
theorem isolates_iff (hvalid : config.validate = .ok ()) (hp : p ∈ config.providers) :
    (config.Isolates tenant p ↔ (p.isActive = true → ¬ config.Shares tenant p)) ∧
      ∀ (σ : Type) (o : Outfit σ) (x : RecordStore × σ) (history : List (Provider × Month)),
        ∃ vs : List Visit, vs.map (fun v ↦ (v.provider, v.lastCompleted)) = history ∧
          (o.runs x history).1 = o.visits x.1 vs := by
  refine ⟨?_, fun σ o ↦ o.exists_visits_of_runs⟩
  constructor
  · intro hisolates hactive hshares
    exact not_isolates_of_shares hactive hshares hisolates
  · intro hapart
    by_cases hactive : p.isActive = true
    · exact isolates_of_not_shares hvalid hp (hapart hactive)
    · exact isolates_of_not_isActive hactive

end Isolates

section TwoTenants

/-- One provider id, declared for a tenant with one report type from 2020 on. -/
private def declaredFor (tenant reportType : String) : Provider :=
  { id := "p", tenant, reportTypes := [reportType], start := .january 2020 }

private def sameType : Settings := { providers := [declaredFor "a" "DR", declaredFor "b" "DR"] }

private def otherType : Settings := { providers := [declaredFor "a" "DR", declaredFor "b" "TR"] }

/-- Settings are valid that declare a provider for two tenants, though one has a part in the plans
of the other. -/
theorem valid_not_isolates :
    sameType.validate = .ok () ∧ declaredFor "b" "DR" ∈ sameType.providers ∧
      (declaredFor "b" "DR").tenant ≠ "a" ∧ ¬ sameType.Isolates "a" (declaredFor "b" "DR") := by
  have hcovers (tenant : String) : (declaredFor tenant "DR").Covers "DR" (.january 2020) :=
    ⟨List.mem_singleton_self _, Month.le_refl _, fun _ hstop ↦ absurd hstop (Option.not_mem_none _)⟩
  refine ⟨rfl, List.mem_cons_of_mem _ List.mem_cons_self, by decide, ?_⟩
  apply not_isolates_of_shares rfl
  exact ⟨declaredFor "a" "DR", List.mem_cons_self, rfl, rfl, rfl, _, _, hcovers "a", hcovers "b"⟩

theorem isolates_iff_other_type :
    otherType.validate = .ok () ∧ declaredFor "b" "TR" ∈ otherType.providers ∧
      otherType.Isolates "a" (declaredFor "b" "TR") := by
  have hmem : declaredFor "b" "TR" ∈ otherType.providers :=
    List.mem_cons_of_mem _ List.mem_cons_self
  refine ⟨rfl, hmem, (isolates_iff rfl hmem).1.mpr ?_⟩
  rintro - ⟨q, hq, htenant, -, -, t, m, hqcovers, hcovers⟩
  have ht : t = "TR" := List.mem_singleton.mp hcovers.requested
  rcases List.mem_cons.mp hq with rfl | hq
  · have ht' : t = "DR" := List.mem_singleton.mp hqcovers.requested
    rw [ht] at ht'
    contradiction
  · rw [List.mem_singleton.mp hq] at htenant
    contradiction

end TwoTenants
end UsageReports
