import UsageReports.Plan.Packing
import UsageReports.Provider

/-!
# Plans

The gap of a provider is the months of each requested type that are over, wanted, and neither
satisfied nor given up. A plan is the gap packed into ranges.
-/

namespace UsageReports

/-- Why there is no plan. -/
inductive PlanError where
  | notActive (provider : String)
deriving DecidableEq

/-- The error as it is reported. -/
def PlanError.message : PlanError → String
  | .notActive provider => s!"Harvesting is not active for provider '{provider}'"

namespace Provider

/-- Whether a record settles a month of a type of this provider, so that it is not asked for. -/
def isSettled (p : Provider) (existing : List Record) (reportType : String) (month : Month) : Bool :=
  existing.any fun r =>
    r.provider = p.id && r.reportType = reportType && r.month = month &&
      (r.isSatisfied || r.isExhausted p.maxFailedAttempts)

/-- The months wanted of each type that are over by `lastCompleted`. -/
def wantedMonths (p : Provider) (lastCompleted : Month) : List Month :=
  Month.between p.start (Month.clampEnd p.stop lastCompleted)

/-- The missing months of each requested type. -/
def gaps (p : Provider) (existing : List Record) (lastCompleted : Month) :
    List (String × List Month) :=
  p.reportTypes.map fun t =>
    (t, (p.wantedMonths lastCompleted).filter fun m => !p.isSettled existing t m)

/-- The ranges to ask for. -/
def plan (packing : Packing) (p : Provider) (existing : List Record) (lastCompleted : Month) :
    Except PlanError (List Range) :=
  if p.isActive then
    .ok <| packing.pack <| (p.gaps existing lastCompleted).flatMap fun (t, months) =>
      months.map (Range.single t)
  else .error (.notActive p.id)

end Provider

end UsageReports
