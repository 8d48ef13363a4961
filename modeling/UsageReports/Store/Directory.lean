import UsageReports.Data.Sorted
import UsageReports.Provider

/-!
# Provider directories

The declared providers of all tenants. Of several declarations of one provider of a tenant the last
counts.
-/

namespace UsageReports

/-- The declared providers, in the order of their declaration. -/
structure Directory where
  declared : List Provider

namespace Directory

/-- Declare one more provider. -/
def insert (d : Directory) (p : Provider) : Directory := ⟨d.declared ++ [p]⟩

/-- The provider of a tenant with an id. -/
def byId? (d : Directory) (tenant id : String) : Option Provider :=
  (d.declared.filter fun p => p.tenant = tenant && p.id = id).getLast?

/-- The active providers of a tenant in the order of their ids. -/
def active (d : Directory) (tenant : String) : List Provider :=
  (sortedBy Provider.id (d.declared.filter (·.tenant = tenant))).filter Provider.isActive

end Directory

end UsageReports
