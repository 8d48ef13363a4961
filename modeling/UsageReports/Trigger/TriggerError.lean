import UsageReports.Store.StoreError
import UsageReports.Trigger.Trigger

/-!
# Errors of triggers

What can go wrong when triggers are set, looked up or removed.
-/

namespace UsageReports

/-- The operations of a trigger store. -/
inductive StoreOperation where
  | get
  | put
  | delete
  | list
  /-- An operation by another name. -/
  | named (name : String)
deriving DecidableEq

/-- The name of an operation. -/
def StoreOperation.text : StoreOperation → String
  | .get => "get"
  | .put => "put"
  | .delete => "delete"
  | .list => "list"
  | .named name => name

/-- What can go wrong with triggers. -/
inductive TriggerError where
  | unsupportedInterval (text : String)
  | notFound (tenant : String)
  /-- A field of a trigger that cannot be so. -/
  | invalid (field reason : String)
  | store (operation : StoreOperation) (cause : StoreError)
deriving DecidableEq

namespace TriggerError

/-- The error as it is reported. -/
def message : TriggerError → String
  | unsupportedInterval text =>
    s!"Unsupported interval '{text}'. Valid options: daily, weekly, monthly"
  | notFound tenant => s!"No periodic trigger configured for tenant '{tenant}'"
  | invalid field reason => s!"Trigger config error in '{field}': {reason}"
  | store operation cause => s!"Trigger store error during '{operation.text}': {cause.message}"

/-- Whether the same operation may succeed later. -/
def isRecoverable : TriggerError → Bool
  | store _ _ => true
  | _ => false

end TriggerError

/-- The interval of a name, or the error that quotes it. -/
def Interval.ofText (s : String) : Except TriggerError Interval :=
  match Interval.ofText? s with
  | some interval => .ok interval
  | none => .error (.unsupportedInterval s)

/-- A trigger needs a tenant that is more than blanks. -/
def Trigger.validate (t : Trigger) : Except TriggerError Unit :=
  if trim t.tenant.toList = [] then .error (.invalid "tenant_id" "Tenant id cannot be empty")
  else .ok ()

end UsageReports
