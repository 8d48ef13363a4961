import UsageReports.Store.TriggerArchive

/-!
# Calls to a trigger store

A trigger archive whose calls may fail. A call that meets a fault changes nothing in the archive; so
does one that finds a stored value it cannot read.
-/

namespace UsageReports

/-- A trigger archive, and what its coming calls meet: for each operation in order, a fault or
none. Calls beyond those meet no fault. -/
structure TriggerStore where
  archive : TriggerArchive
  coming : List (StoreOperation × Option StoreError) := []
deriving DecidableEq

namespace TriggerStore

/-- What the first coming call of an operation meets, and what is to come after it. -/
def meet (op : StoreOperation) : List (StoreOperation × Option StoreError) →
    Option StoreError × List (StoreOperation × Option StoreError)
  | [] => (none, [])
  | (o, fault) :: rest =>
    if o = op then (fault, rest)
    else
      let (met, rest) := meet op rest
      (met, (o, fault) :: rest)

/-- Make one call. -/
def call {α : Type} (s : TriggerStore) (op : StoreOperation)
    (run : TriggerArchive → Except StoreError (α × TriggerArchive)) :
    Except TriggerError α × TriggerStore :=
  let (fault, coming) := meet op s.coming
  match fault with
  | some e => (.error (.store op e), { s with coming })
  | none =>
    match run s.archive with
    | .error e => (.error (.store op e), { s with coming })
    | .ok (a, archive) => (.ok a, { archive, coming })

/-- The trigger of a tenant. -/
def get (s : TriggerStore) (tenant : String) : Except TriggerError (Option Trigger) × TriggerStore :=
  s.call .get fun a => (a.get tenant).map fun t => (t, a)

/-- Store a trigger in place of the one of its tenant. -/
def put (s : TriggerStore) (t : Trigger) : Except TriggerError Unit × TriggerStore :=
  s.call .put fun a => .ok ((), a.put t)

/-- Remove the trigger of a tenant; tells whether there was one. -/
def erase (s : TriggerStore) (tenant : String) : Except TriggerError Bool × TriggerStore :=
  s.call .delete fun a => .ok (a.contains tenant, a.erase tenant)

/-- All triggers in the order of their tenants. -/
def list (s : TriggerStore) : Except TriggerError (List Trigger) × TriggerStore :=
  s.call .list fun a => a.list.map fun ts => (ts, a)

end TriggerStore

end UsageReports
