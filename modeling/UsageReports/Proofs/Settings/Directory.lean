import UsageReports.Console.Command
import UsageReports.Proofs.Data.SortedSet
import UsageReports.Proofs.Settings.Declared
import UsageReports.Proofs.Text.ByteOrder

/-!
# The directory of the declared providers

A plan is made for the first provider that the settings declare with a tenant and an id, a harvest
is of the last one. In valid settings there is no other, so both see the same provider, and a job
for a tenant is for each of its active providers once, in the order of their ids.
-/

namespace UsageReports

variable {s : Settings} {tenant id : String} {p : Provider}

namespace Directory

/-- A provider that is found was declared so. -/
theorem of_byId?_eq_some {d : Directory} (h : d.byId? tenant id = some p) :
    p ∈ d.declared ∧ p.tenant = tenant ∧ p.id = id := by
  have hmem := List.mem_filter.mp (List.mem_of_getLast? h)
  simpa using hmem

/-- Where a provider was declared one is found. -/
theorem byId?_ne_none {d : Directory} (h : p ∈ d.declared) : d.byId? p.tenant p.id ≠ none := by
  have hmem : p ∈ d.declared.filter fun q ↦ q.tenant = p.tenant && q.id = p.id := by simp [h]
  rw [byId?, ne_eq, List.getLast?_eq_none_iff]
  exact List.ne_nil_of_mem hmem

/-- The active providers of a tenant are its declared ones in another order, if their ids differ. -/
theorem active_perm {d : Directory}
    (h : ((d.declared.filter (·.tenant = tenant)).map Provider.id).Nodup) :
    (d.active tenant).Perm (d.declared.filter fun p ↦ p.tenant = tenant && p.isActive) := by
  have hfilter : (d.declared.filter fun p ↦ p.tenant = tenant && p.isActive) =
      (d.declared.filter (·.tenant = tenant)).filter Provider.isActive := by
    rw [List.filter_filter]
    simp only [Bool.and_comm]
  rw [active, sortedBy_eq_mergeSort Provider.id h, hfilter]
  apply List.Perm.filter
  exact List.mergeSort_perm _ _

/-- The active providers of a tenant stand in the order of the bytes of their ids. -/
theorem pairwise_active (d : Directory) (tenant : String) :
    (d.active tenant).Pairwise fun p q ↦ utf8Bytes p.id < utf8Bytes q.id := by
  apply List.Pairwise.filter
  apply (pairwise_sortedBy Provider.id _).imp
  intro p q h
  apply lt_iff_utf8Bytes_lt.mp
  exact (Std.le_iff_lt_or_eq.mp h.1).resolve_right h.2

end Directory

namespace Settings

/-- What stands for a tenant and an id in valid settings stands there alone. -/
theorem byId?_eq_some_iff (h : s.validate = .ok ()) :
    (Directory.mk s.providers).byId? tenant id = some p ↔
      p ∈ s.providers ∧ p.tenant = tenant ∧ p.id = id := by
  constructor
  · exact Directory.of_byId?_eq_some
  · rintro ⟨hp, rfl, rfl⟩
    cases hq : (Directory.mk s.providers).byId? p.tenant p.id with
    | none => exact absurd hq (Directory.byId?_ne_none hp)
    | some q =>
      obtain ⟨hmem, htenant, hid⟩ := Directory.of_byId?_eq_some hq
      rw [eq_of_validate h hmem hp htenant hid]

/-- In valid settings the first provider of a tenant and an id is the one of the directory. -/
theorem provider?_eq_byId? (h : s.validate = .ok ()) (tenant id : String) :
    s.provider? tenant id = (Directory.mk s.providers).byId? tenant id := by
  rw [provider?]
  cases hq : s.providers.find? fun p ↦ p.tenant = tenant && p.id = id with
  | some q =>
    have hkey := List.find?_some hq
    simp only [Bool.and_eq_true, decide_eq_true_eq] at hkey
    exact ((byId?_eq_some_iff h).mpr ⟨List.mem_of_find?_eq_some hq, hkey⟩).symm
  | none =>
    symm
    apply Option.eq_none_iff_forall_ne_some.mpr
    intro p hp
    obtain ⟨hmem, htenant, hid⟩ := Directory.of_byId?_eq_some hp
    have hnot := List.find?_eq_none.mp hq p hmem
    simp [htenant, hid] at hnot

/-- In valid settings the providers of a tenant have ids of their own. -/
theorem nodup_ids (h : s.validate = .ok ()) (tenant : String) :
    ((s.providers.filter (·.tenant = tenant)).map Provider.id).Nodup := by
  have hkeys := (nodup_of_validate h).sublist
    ((List.filter_sublist (p := fun p ↦ p.tenant = tenant)).map _)
  apply List.pairwise_map.mpr
  apply List.Pairwise.imp_of_mem _ (List.pairwise_map.mp hkeys)
  intro p q hp hq hne hid
  have hp : p.tenant = tenant := by simpa using (List.mem_filter.mp hp).2
  have hq : q.tenant = tenant := by simpa using (List.mem_filter.mp hq).2
  apply hne
  rw [hp, hq, hid]

end Settings

/-! ### What a plan and a harvest see -/

namespace World

variable {σ : Type} {w : World σ} {asOf : Option String}

/-- What a plan for a provider comes to: what is printed, and what is left of the world. -/
inductive PlanFor (w : World σ) (s : Settings) (p : Provider) (asOf : Option String) :
    Printout × World σ → Prop
  | badMonth {e : RangeError} (hend : w.planEnd asOf = .error e) :
      PlanFor w s p asOf (.stopped (.badMonth e), w)
  | noDatabase {last : Month} {e : StoreError} {disk : Disk} (hend : w.planEnd asOf = .ok last)
      (hopen : w.disk.openDatabase s.databasePath = (.error e, disk)) :
      PlanFor w s p asOf (.stopped (.store e), { w with disk })
  | unreadable {last : Month} {content : Database} {disk : Disk} {e : StoreError}
      (hend : w.planEnd asOf = .ok last)
      (hopen : w.disk.openDatabase s.databasePath = (.ok content, disk))
      (hread : RecordStore.existingOf { archive := .table content.records } p.id p.reportTypes =
        .error e) :
      PlanFor w s p asOf (.stopped (.store e), { w with disk })
  | shown {last : Month} {content : Database} {disk : Disk} {existing : List Record}
      (hend : w.planEnd asOf = .ok last)
      (hopen : w.disk.openDatabase s.databasePath = (.ok content, disk))
      (hread : RecordStore.existingOf { archive := .table content.records } p.id p.reportTypes =
        .ok existing) :
      PlanFor w s p asOf
        (.done (planText last (p.plan s.harvest.packing existing last)), { w with disk })

/-- A plan is for the first provider that is declared with the tenant and the id. -/
theorem planFor_plan (h : s.provider? tenant id = some p) (hid : p.id = id) :
    PlanFor w s p asOf (w.plan s tenant id asOf) := by
  subst hid
  simp only [plan, h]
  cases hend : w.planEnd asOf with
  | error e => exact .badMonth hend
  | ok last =>
    cases hopen : w.disk.openDatabase s.databasePath with
    | mk content disk =>
      cases content with
      | error e => exact .noDatabase hend hopen
      | ok content =>
        simp only
        split
        · next e hread => exact .unreadable hend hopen hread
        · next existing hread => exact .shown hend hopen hread

/-- Nothing is done about a provider that is not declared. -/
theorem plan_of_undeclared (h : s.provider? tenant id = none) :
    w.plan s tenant id asOf = (.stopped (.undeclared id tenant), w) := by
  rw [plan, h]

/-- The service harvests for the providers that the settings declare. -/
theorem directory_of_openService {service : Service σ} {w' : World σ}
    (h : w.openService s = (.ok service, w')) : service.harvester.directory = ⟨s.providers⟩ := by
  simp only [openService] at h
  split at h
  · simp at h
  · split at h
    · simp at h
    · simp only [Prod.mk.injEq, Except.ok.injEq] at h
      rw [← h.1]

end World

namespace Settings

/-- In valid settings the provider that is planned for is the one that the directory of the service
has, which is harvested for, and no declared provider hides another. A tenant's active providers are
the declared ones, each once, in the order of the bytes of their ids, which are distinct. -/
theorem plan_and_directory_agree (h : s.validate = .ok ()) (tenant id : String) :
    let d : Directory := ⟨s.providers⟩
    s.provider? tenant id = d.byId? tenant id ∧
    (∀ (σ : Type) (w : World σ) (asOf : Option String),
      (d.byId? tenant id = none →
        w.plan s tenant id asOf = (.stopped (.undeclared id tenant), w)) ∧
      (∀ p, d.byId? tenant id = some p → w.PlanFor s p asOf (w.plan s tenant id asOf)) ∧
      ∀ service w', w.openService s = (.ok service, w') → service.harvester.directory = d) ∧
    (∀ (σ : Type) (service : Harvester σ), service.directory = d →
      service.lookupFault? tenant = none →
      (s.provider? tenant id = none →
        service.startProvider tenant id = .error (.providerNotFound tenant id)) ∧
      ∀ p, s.provider? tenant id = some p →
        service.startProvider tenant id = service.start ⟨tenant, some id⟩ .manual (some p)) ∧
    (∀ p ∈ s.providers, d.byId? p.tenant p.id = some p) ∧
    (d.active tenant).Perm (s.providers.filter fun p ↦ p.tenant = tenant && p.isActive) ∧
    ((d.active tenant).map Provider.id).Nodup ∧
    (d.active tenant).Pairwise fun p q ↦ utf8Bytes p.id < utf8Bytes q.id := by
  intro d
  have hsame : s.provider? tenant id = d.byId? tenant id := provider?_eq_byId? h tenant id
  have hsorted := d.pairwise_active tenant
  refine ⟨hsame, ?_, ?_, ?_, Directory.active_perm (nodup_ids h tenant), ?_, hsorted⟩
  · intro σ w asOf
    rw [← hsame]
    refine ⟨World.plan_of_undeclared, ?_, fun service w' ↦ World.directory_of_openService⟩
    intro p hp
    exact World.planFor_plan hp (Directory.of_byId?_eq_some (hsame ▸ hp)).2.2
  · intro σ service hd hlookup
    rw [Harvester.startProvider, hlookup, hd, hsame]
    constructor
    · intro hp
      rw [hp]
    · intro p hp
      rw [hp]
  · intro p hp
    exact (byId?_eq_some_iff h).mpr ⟨hp, rfl, rfl⟩
  · apply List.pairwise_map.mpr
    apply hsorted.imp
    intro p q hlt he
    rw [he] at hlt
    exact List.lt_irrefl _ hlt

section Scattered

/-- A provider of one report type. -/
private def reporting (tenant id : String) (status : Status) : Provider :=
  { id, tenant, reportTypes := ["DR"], start := .january 2020, status }

/-- The ids of two tenants, in no order. -/
private def declaredApart : Settings :=
  { providers :=
      [reporting "a" "é" .active, reporting "b" "x" .active, reporting "a" "z" .active,
        reporting "a" "y" .inactive, reporting "a" "x" .active] }

/-- A place where nothing was stored yet, and nobody answers. -/
private def emptyPlace : World Unit :=
  { disk := ⟨[]⟩, network := fun _ state ↦ (.closed, state), state := (), now := default
    names := toString }

/-- A plan for the first month of a declared provider, and none for a provider of another tenant. -/
theorem plan_and_directory_agree_scattered :
    declaredApart.validate = .ok () ∧
    (Directory.mk declaredApart.providers).byId? "a" "x" = some (reporting "a" "x" .active) ∧
    emptyPlace.PlanFor declaredApart (reporting "a" "x" .active) (some "2020-01")
      (emptyPlace.plan declaredApart "a" "x" (some "2020-01")) ∧
    (emptyPlace.plan declaredApart "a" "x" (some "2020-01")).1.text =
      "1 ranges up to 2020-01:\n  DR[2020-01] (1 months)\n" ∧
    emptyPlace.plan declaredApart "b" "y" none = (.stopped (.undeclared "y" "b"), emptyPlace) ∧
    ((Directory.mk declaredApart.providers).active "a").Perm
      [reporting "a" "é" .active, reporting "a" "z" .active, reporting "a" "x" .active] ∧
    ((Directory.mk declaredApart.providers).active "a").Pairwise
      fun p q ↦ utf8Bytes p.id < utf8Bytes q.id := by
  have h : declaredApart.validate = .ok () := rfl
  obtain ⟨hfirst, hplan, -, -, hperm, -, hsorted⟩ := plan_and_directory_agree h "a" "x"
  obtain ⟨-, hnone, -⟩ := plan_and_directory_agree h "b" "y"
  exact ⟨h, hfirst.symm, (hplan Unit emptyPlace (some "2020-01")).2.1 _ hfirst.symm,
    by decide +kernel, (hnone Unit emptyPlace none).1 rfl, hperm, hsorted⟩

end Scattered

end Settings

end UsageReports
