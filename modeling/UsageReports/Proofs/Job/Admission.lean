import Mathlib.Data.List.Nodup
import Mathlib.Data.List.Pairwise
import Mathlib.Data.List.Perm.Basic
import Mathlib.Data.Set.List
import UsageReports.Job.Registry

/-!
# Admission to the registry

Callers ask for keys, and each one that is given a key holds a guard until it drops it. However the
calls of many callers follow each other, the registry has the keys of the guards that are alive, no
two of which conflict, and it gives out a key exactly when that stays so.
-/

namespace UsageReports

namespace JobKey

theorem Conflicts.symm {a b : JobKey} (h : a.Conflicts b) : b.Conflicts a := by
  obtain ⟨ht, hp⟩ := h
  refine ⟨ht.symm, ?_⟩
  rcases hp with ha | hb | he
  · exact Or.inr (Or.inl ha)
  · exact Or.inl hb
  · exact Or.inr (Or.inr he.symm)

instance : Std.Symm fun a b : JobKey ↦ ¬ a.Conflicts b := ⟨fun _ _ h hc ↦ h hc.symm⟩

/-- Every key conflicts with itself. -/
theorem conflicts_self (k : JobKey) : k.Conflicts k := ⟨rfl, Or.inr (Or.inr rfl)⟩

/-- Keys that exclude each other are distinct. -/
theorem nodup_of_pairwise {keys : List JobKey} (h : keys.Pairwise (¬ ·.Conflicts ·)) :
    keys.Nodup := by
  refine h.imp ?_
  intro a b hne he
  exact hne (he ▸ conflicts_self a)

/-- What conflicts with the key of a provider is that key or the one of its tenant. -/
theorem conflicts_provider_iff (a : JobKey) (tenant provider : String) :
    a.Conflicts ⟨tenant, some provider⟩ ↔ a = ⟨tenant, some provider⟩ ∨ a = ⟨tenant, none⟩ := by
  obtain ⟨t, p⟩ := a
  simp only [Conflicts, reduceCtorEq, false_or, mk.injEq]
  tauto

/-- What conflicts with the key of a tenant is any key of it. -/
theorem conflicts_tenant_iff (a : JobKey) (tenant : String) :
    a.Conflicts ⟨tenant, none⟩ ↔ a.tenant = tenant := by
  simp only [Conflicts, true_or, or_true, and_true]

/-- Keys of one tenant exclude each other when they are the key for all its providers alone, or keys
for distinct providers. -/
theorem pairwise_iff_of_tenant {keys : List JobKey} {tenant : String}
    (ht : ∀ k ∈ keys, k.tenant = tenant) :
    keys.Pairwise (¬ ·.Conflicts ·) ↔
      keys = [⟨tenant, none⟩] ∨
        ∃ providers : List String, providers.Nodup ∧
          keys = providers.map fun p ↦ ⟨tenant, some p⟩ := by
  constructor
  · intro hpair
    by_cases hwhole : ⟨tenant, none⟩ ∈ keys
    · left
      have hall : ∀ k ∈ keys, k = ⟨tenant, none⟩ := by
        intro k hk
        by_contra hne
        have hfree : ¬ k.Conflicts ⟨tenant, none⟩ :=
          hpair.forall hk hwhole hne
        exact hfree ((conflicts_tenant_iff k tenant).mpr (ht k hk))
      have hnodup : keys.Nodup := nodup_of_pairwise hpair
      exact List.perm_singleton.mp
        ((List.perm_ext_iff_of_nodup hnodup (List.nodup_singleton _)).mpr fun k ↦
          ⟨fun hk ↦ List.mem_singleton.mpr (hall k hk),
            fun hk ↦ List.mem_singleton.mp hk ▸ hwhole⟩)
    · right
      have hsome : ∀ k ∈ keys, k ∈ Set.range fun p ↦ (⟨tenant, some p⟩ : JobKey) := by
        rintro ⟨t, _ | p⟩ hk
        · exact absurd (ht _ hk ▸ hk) hwhole
        · exact ⟨p, by rw [← ht _ hk]⟩
      obtain ⟨providers, rfl⟩ : keys ∈ Set.range (List.map _) := by
        rw [Set.range_list_map]
        exact hsome
      exact ⟨providers, (nodup_of_pairwise hpair).of_map _, rfl⟩
  · rintro (rfl | ⟨providers, hnodup, rfl⟩)
    · exact List.pairwise_singleton _ _
    · rw [List.pairwise_map]
      exact hnodup.imp fun hne hc ↦ by simp [conflicts_provider_iff, hne] at hc

end JobKey

namespace Registry

/-- The keys of a tenant that are held. -/
def keysOf (r : Registry) (tenant : String) : List JobKey :=
  (r.held.map Holding.key).filter (·.tenant = tenant)

/-- Each tenant has the key for all its providers alone, or keys for distinct providers. -/
def Exclusive (r : Registry) : Prop :=
  ∀ tenant, r.keysOf tenant = [⟨tenant, none⟩] ∨
    ∃ providers : List String, providers.Nodup ∧
      r.keysOf tenant = providers.map fun p ↦ ⟨tenant, some p⟩

/-- A registry is exclusive when no two of its keys conflict: keys of different tenants never do. -/
theorem exclusive_iff (r : Registry) :
    r.Exclusive ↔ (r.held.map Holding.key).Pairwise (¬ ·.Conflicts ·) := by
  have htenant : ∀ tenant, ∀ k ∈ r.keysOf tenant, k.tenant = tenant := by
    intro tenant k hk
    exact of_decide_eq_true (List.mem_filter.mp hk).2
  constructor
  · intro h
    have hp := fun tenant ↦ (JobKey.pairwise_iff_of_tenant (htenant tenant)).mpr (h tenant)
    unfold keysOf at hp
    generalize r.held.map Holding.key = keys at hp ⊢
    induction keys with
    | nil => exact List.Pairwise.nil
    | cons k rest ih =>
      refine List.pairwise_cons.mpr ⟨?_, ih fun tenant ↦ (hp tenant).sublist ?_⟩
      · intro k' hk' hc
        have hk := hp k.tenant
        rw [List.filter_cons_of_pos (by simp)] at hk
        exact (List.pairwise_cons.mp hk).1 k'
          (List.mem_filter.mpr ⟨hk', decide_eq_true hc.1.symm⟩) hc
      · exact (List.sublist_cons_self k rest).filter _
  · intro h tenant
    exact (JobKey.pairwise_iff_of_tenant (htenant tenant)).mp (h.filter _)

/-- A key that joins an exclusive registry leaves it so when it conflicts with none there. -/
theorem exclusive_concat_iff {r : Registry} (h : r.Exclusive) (job : Nat) (k : JobKey) :
    Exclusive ⟨r.held ++ [⟨job, k⟩]⟩ ↔ ∀ k' ∈ r.held.map Holding.key, ¬ k'.Conflicts k := by
  rw [exclusive_iff] at h ⊢
  rw [List.map_append, List.pairwise_append]
  simp only [List.map_cons, List.map_nil, List.mem_singleton, forall_eq, List.pairwise_singleton, h,
    true_and]

/-- In an exclusive registry no entry stands twice. -/
theorem Exclusive.nodup {r : Registry} (h : r.Exclusive) : r.held.Nodup :=
  (JobKey.nodup_of_pairwise ((exclusive_iff r).mp h)).of_map _

/-- What keeps some of the entries of an exclusive registry is exclusive. -/
theorem Exclusive.sublist {r r' : Registry} (h : r.Exclusive) (hsub : r'.held.Sublist r.held) :
    r'.Exclusive :=
  (exclusive_iff r').mpr (((exclusive_iff r).mp h).sublist (hsub.map _))

theorem isHeld_iff (r : Registry) (k : JobKey) :
    r.isHeld k = true ↔ k ∈ r.held.map Holding.key := by
  simp only [isHeld, List.any_eq_true, decide_eq_true_eq, List.mem_map]

/-- A request fails for the key of a provider that is held, and for any other conflict. -/
theorem conflict?_eq (r : Registry) (k : JobKey) :
    r.conflict? k =
      if ∀ k' ∈ r.held.map Holding.key, ¬ k'.Conflicts k then none
      else if k ∈ r.held.map Holding.key then
        some (k.provider.elim (.alreadyInProgress k.tenant) (.alreadyScheduled k.tenant))
      else some (.alreadyInProgress k.tenant) := by
  obtain ⟨tenant, _ | provider⟩ := k
  · have hany : r.held.any (·.key.tenant = tenant) = true ↔
        ¬ ∀ k' ∈ r.held.map Holding.key, ¬ k'.Conflicts ⟨tenant, none⟩ := by
      simp [JobKey.conflicts_tenant_iff]
    simp only [conflict?, Option.elim_none, ite_self]
    split
    · next h => rw [if_neg (hany.mp h)]
    · next h => rw [if_pos (not_not.mp (mt hany.mpr h))]
  · have hall : (∀ k' ∈ r.held.map Holding.key, ¬ k'.Conflicts ⟨tenant, some provider⟩) ↔
        ⟨tenant, some provider⟩ ∉ r.held.map Holding.key ∧
          ⟨tenant, none⟩ ∉ r.held.map Holding.key := by
      simp only [JobKey.conflicts_provider_iff, not_or]
      exact ⟨fun h ↦ ⟨fun hk ↦ (h _ hk).1 rfl, fun hk ↦ (h _ hk).2 rfl⟩,
        fun h k' hk' ↦ ⟨fun he ↦ h.1 (he ▸ hk'), fun he ↦ h.2 (he ▸ hk')⟩⟩
    simp only [conflict?, isHeld_iff, hall, Option.elim_some]
    split
    · next h => rw [if_neg fun hn ↦ hn.1 h]
    · next h =>
      split
      · next hw => rw [if_neg fun hn ↦ hn.2 hw]
      · next hw => rw [if_pos ⟨h, hw⟩]

/-- Releasing an entry of an exclusive registry takes away that entry and no other. -/
theorem perm_cons_release {r : Registry} (h : r.Exclusive) {entry : Holding}
    (hentry : entry ∈ r.held) : r.held.Perm (entry :: (r.release entry).held) := by
  have hrelease : (r.release entry).held = r.held.erase entry := by
    rw [h.nodup.erase_eq_filter, release]
    simp only [bne_eq, decide_not]
    rfl
  rw [hrelease]
  exact List.perm_cons_erase hentry

end Registry

/-- A registry, and the guards that its callers hold, each with the job and the key it is for. -/
structure Admission where
  registry : Registry := .empty
  guards : List Holding := []

/-- What a caller does: it asks for a key, or it drops the guard that stands at a place among those
alive. -/
inductive AdmissionCall where
  | acquire (job : Nat) (key : JobKey)
  | drop (place : Nat)

namespace Admission

/-- What a call does. A caller that is given a key holds a guard from then on. -/
def step (s : Admission) : AdmissionCall → Admission
  | .acquire job key =>
    match s.registry.acquire job key with
    | .ok registry => ⟨registry, s.guards ++ [⟨job, key⟩]⟩
    | .error _ => s
  | .drop place =>
    match s.guards[place]? with
    | some guard => ⟨s.registry.release guard, s.guards.eraseIdx place⟩
    | none => s

/-- What calls leave, made one after the other. -/
def after (s : Admission) (calls : List AdmissionCall) : Admission := calls.foldl step s

/-- The entries of the registry are the guards alive, and they exclude each other. -/
structure Sound (s : Admission) : Prop where
  held : s.registry.held.Perm s.guards
  exclusive : s.registry.Exclusive

/-- Why a key that cannot be had is refused: a provider's job has its own key to wait for, or
another job of the tenant is in the way. -/
def refusal (s : Admission) (key : JobKey) : JobError :=
  match key.provider with
  | some provider =>
    if key ∈ s.guards.map Holding.key then .alreadyScheduled key.tenant provider
    else .alreadyInProgress key.tenant
  | none => .alreadyInProgress key.tenant

variable {s : Admission}

theorem sound_empty : Sound {} :=
  ⟨List.Perm.refl _, (Registry.exclusive_iff _).mpr List.Pairwise.nil⟩

/-- A key is given out when the registry stays exclusive with it, and refused otherwise. -/
theorem acquire_eq (h : s.Sound) (job : Nat) (key : JobKey)
    [Decidable (Registry.Exclusive ⟨s.registry.held ++ [⟨job, key⟩]⟩)] :
    s.registry.acquire job key =
      if Registry.Exclusive ⟨s.registry.held ++ [⟨job, key⟩]⟩ then
        .ok ⟨s.registry.held ++ [⟨job, key⟩]⟩
      else .error (s.refusal key) := by
  have hmem : key ∈ s.registry.held.map Holding.key ↔ key ∈ s.guards.map Holding.key :=
    (h.held.map _).mem_iff
  rw [Registry.acquire, Registry.conflict?_eq]
  simp only [Registry.exclusive_concat_iff h.exclusive, hmem]
  by_cases hfree : ∀ k' ∈ s.registry.held.map Holding.key, ¬ k'.Conflicts key
  · rw [if_pos hfree, if_pos hfree]
  · rw [if_neg hfree, if_neg hfree, refusal]
    cases key.provider with
    | none => simp only [Option.elim_none, ite_self]
    | some provider =>
      by_cases hk : key ∈ s.guards.map Holding.key
      · simp only [if_pos hk, Option.elim_some]
      · simp only [if_neg hk]

/-- Dropping a guard takes away its own entry and no other. -/
theorem perm_cons_drop (h : s.Sound) {place : Nat} {guard : Holding}
    (hg : s.guards[place]? = some guard) :
    s.registry.held.Perm (guard :: (s.step (.drop place)).registry.held) := by
  have hstep : (s.step (.drop place)).registry = s.registry.release guard := by
    simp only [step, hg]
  rw [hstep]
  exact Registry.perm_cons_release h.exclusive (h.held.mem_iff.mpr (List.mem_of_getElem? hg))

theorem Sound.step (h : s.Sound) (call : AdmissionCall) : (s.step call).Sound := by
  classical
  cases call with
  | acquire job key =>
    rw [Admission.step, acquire_eq h]
    split
    · next r hr =>
      split at hr
      · next hadd =>
        rw [← Except.ok.inj hr]
        exact ⟨h.held.append_right _, hadd⟩
      · contradiction
    · exact h
  | drop place =>
    cases hg : s.guards[place]? with
    | none =>
      simp only [Admission.step, hg]
      exact h
    | some guard =>
      have hperm := perm_cons_drop h hg
      obtain ⟨hlt, rfl⟩ := List.getElem?_eq_some_iff.mp hg
      simp only [Admission.step, hg] at hperm ⊢
      refine ⟨?_, h.exclusive.sublist List.filter_sublist⟩
      exact (hperm.symm.trans (h.held.trans (List.getElem_cons_eraseIdx_perm hlt).symm)).cons_inv

theorem Sound.after (h : s.Sound) (calls : List AdmissionCall) : (s.after calls).Sound := by
  induction calls generalizing s with
  | nil => exact h
  | cons call rest ih => exact ih (h.step call)

/-- After any calls the registry has the entries of the guards alive, and they exclude each other; a
key is given out exactly when they still do with it, and refused without a trace otherwise; and a
guard that is dropped takes its own entry with it and no other. -/
theorem exclusive_and_exact (calls : List AdmissionCall) :
    let s := after {} calls
    s.registry.held.Perm s.guards ∧ s.registry.Exclusive ∧
      (∀ job key,
        let joined : Registry := ⟨s.registry.held ++ [⟨job, key⟩]⟩
        (joined.Exclusive → s.registry.acquire job key = .ok joined ∧
          s.step (.acquire job key) = ⟨joined, s.guards ++ [⟨job, key⟩]⟩) ∧
        (¬ joined.Exclusive → s.registry.acquire job key = .error (s.refusal key) ∧
          s.step (.acquire job key) = s)) ∧
      ∀ place guard, s.guards[place]? = some guard →
        s.registry.held.Perm (guard :: (s.step (.drop place)).registry.held) := by
  classical
  intro s
  have h : s.Sound := sound_empty.after calls
  refine ⟨h.held, h.exclusive, ?_, fun place guard hg ↦ perm_cons_drop h hg⟩
  intro job key joined
  have hacquire := acquire_eq h job key
  constructor
  · intro hjoined
    rw [if_pos hjoined] at hacquire
    exact ⟨hacquire, by rw [step, hacquire]⟩
  · intro hjoined
    rw [if_neg hjoined] at hacquire
    exact ⟨hacquire, by rw [step, hacquire]⟩

end Admission
end UsageReports
