import Mathlib.Data.List.Nodup
import UsageReports.Settings.Settings

/-!
# Declared providers

Valid settings declare each provider of a tenant once. They may declare providers of one id for
several tenants.
-/

namespace UsageReports.Settings

/-- Without a duplicate, tenants and ids occur once, and none that was seen. -/
theorem nodup_of_duplicate {seen : List (String × String)} {ps : List Provider}
    (h : duplicate? seen ps = none) :
    (ps.map fun p ↦ (p.tenant, p.id)).Nodup ∧ ∀ p ∈ ps, (p.tenant, p.id) ∉ seen := by
  induction ps generalizing seen with
  | nil => exact ⟨List.nodup_nil, fun _ hp ↦ absurd hp List.not_mem_nil⟩
  | cons p ps ih =>
    rw [duplicate?] at h
    split at h
    · contradiction
    · next hp =>
      obtain ⟨hnodup, hseen⟩ := ih h
      constructor
      · refine List.nodup_cons.mpr ⟨?_, hnodup⟩
        intro hmem
        obtain ⟨q, hq, he⟩ := List.mem_map.mp hmem
        exact hseen q hq (he ▸ List.mem_cons_self)
      · intro q hq
        rcases List.mem_cons.mp hq with rfl | hq
        · exact hp
        · exact fun hmem ↦ hseen q hq (List.mem_cons_of_mem _ hmem)

/-- Valid settings declare no tenant and id twice. -/
theorem nodup_of_validate {s : Settings} (h : s.validate = .ok ()) :
    (s.providers.map fun p ↦ (p.tenant, p.id)).Nodup := by
  unfold validate at h
  split at h
  · contradiction
  · split at h
    · contradiction
    · split at h
      · contradiction
      · next hnone => exact (nodup_of_duplicate hnone).1

/-- In valid settings a provider of a tenant is known by its id. -/
theorem eq_of_validate {s : Settings} (h : s.validate = .ok ()) {p q : Provider}
    (hp : p ∈ s.providers) (hq : q ∈ s.providers) (htenant : p.tenant = q.tenant)
    (hid : p.id = q.id) : p = q :=
  List.inj_on_of_nodup_map (nodup_of_validate h) hp hq (Prod.ext htenant hid)

end UsageReports.Settings
