import UsageReports.Job.Harvester

/-!
# Carrying jobs out

One order of the harvester's steps that brings every job to its end: job by job, for each as many
providers at once as there is room for. While replies are held back, a job gets as far as the
fetches in flight.
-/

namespace UsageReports.Harvester

variable {σ : Type}

/-- How many providers of a job wait, and how many are being fetched. -/
def open? (h : Harvester σ) (id : Nat) : Nat × Nat :=
  match (h.job? id).map Job.stage with
  | some (.running pending active _) => (pending.length, active.length)
  | _ => (0, 0)

/-- Begin as many providers of a job as there is room for. -/
def beginAll (o : Outfit σ) (h : Harvester σ) (id : Nat) : Harvester σ :=
  (List.range (h.open? id).1).foldl (fun h _ => h.beginNext o id) h

/-- Let all providers that a job fetches come to their end. -/
def endAll (o : Outfit σ) (h : Harvester σ) (id : Nat) : Harvester σ :=
  (List.range (h.open? id).2).foldl (fun h _ => h.endFirst o id) h

/-- So many rounds of beginning providers and letting them come to their end. -/
def rounds (o : Outfit σ) (id : Nat) (h : Harvester σ) : Nat → Harvester σ
  | 0 => h
  | n + 1 => rounds o id ((h.beginAll o id).endAll o id) n

/-- Carry a job as far as it gets. -/
def carry (o : Outfit σ) (isHeld : Bool) (h : Harvester σ) (id : Nat) : Harvester σ :=
  let h := h.begin id
  let h :=
    if isHeld then h.beginAll o id
    else rounds o id h ((h.open? id).1 + 1)
  (((h.finish id).forget id).recordEnd id).leave id

/-- Carry all jobs as far as they get. -/
def carryAll (o : Outfit σ) (isHeld : Bool) (h : Harvester σ) : Harvester σ :=
  (h.jobs.map Job.id).foldl (carry o isHeld) h

end UsageReports.Harvester
