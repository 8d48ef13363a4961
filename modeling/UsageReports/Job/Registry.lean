import UsageReports.Job.JobError
import UsageReports.Metrics

/-!
# Job registry

Which jobs hold which keys. A tenant has either one job for all its providers, or jobs for single
providers, each for a different one. A key is held by the job that acquired it until that job
releases it.
-/

namespace UsageReports

/-- What a job is for: all providers of a tenant, or one of them. -/
structure JobKey where
  tenant : String
  provider : Option String
deriving DecidableEq

namespace JobKey

/-- The kind of job. -/
def scope (k : JobKey) : String :=
  match k.provider with
  | none => "tenant"
  | some _ => "provider"

/-- A key as it is shown. -/
def text (k : JobKey) : String :=
  match k.provider with
  | none => s!"{k.tenant}/*"
  | some provider => s!"{k.tenant}/{provider}"

/-- Two keys that cannot be held at once: they have the tenant in common, and one of them is for all
its providers or both are for the same one. -/
def Conflicts (a b : JobKey) : Prop :=
  a.tenant = b.tenant ∧ (a.provider = none ∨ b.provider = none ∨ a.provider = b.provider)

instance (a b : JobKey) : Decidable (a.Conflicts b) := inferInstanceAs (Decidable (_ ∧ _))

end JobKey

/-- A key that is held, and the job that holds it. -/
structure Holding where
  job : Nat
  key : JobKey
deriving DecidableEq

/-- The keys that are held. -/
structure Registry where
  held : List Holding
deriving DecidableEq

namespace Registry

/-- Nothing is held. -/
def empty : Registry := ⟨[]⟩

/-- Whether a key is held. -/
def isHeld (r : Registry) (k : JobKey) : Bool := r.held.any (·.key = k)

/-- Why a key cannot be acquired now. -/
def conflict? (r : Registry) (k : JobKey) : Option JobError :=
  match k.provider with
  | none => if r.held.any (·.key.tenant = k.tenant) then some (.alreadyInProgress k.tenant) else none
  | some provider =>
    if r.isHeld k then some (.alreadyScheduled k.tenant provider)
    else if r.isHeld ⟨k.tenant, none⟩ then some (.alreadyInProgress k.tenant)
    else none

/-- Let a new job hold a key. -/
def acquire (r : Registry) (job : Nat) (k : JobKey) : Except JobError Registry :=
  match r.conflict? k with
  | some e => .error e
  | none => .ok ⟨r.held ++ [⟨job, k⟩]⟩

/-- End the holding of a job, if it still holds its key. -/
def release (r : Registry) (h : Holding) : Registry := ⟨r.held.filter (· ≠ h)⟩

/-- How a request for a key is counted. -/
def admission (r : Registry) (k : JobKey) : Measure :=
  .admission k.scope <|
    match r.conflict? k with
    | none => "accepted"
    | some (.alreadyScheduled _ _) => "scheduled"
    | some _ => "in_progress"

/-- The keys that are held, in the order of their texts. -/
def texts (r : Registry) : List String := (r.held.map (·.key.text)).mergeSort (· ≤ ·)

end Registry

end UsageReports
