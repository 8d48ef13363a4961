import UsageReports.Harvest.HttpSource
import UsageReports.Text.Quoted

/-!
# Catalogs of sources

A catalog knows the service types and makes the source of a provider by the type that the provider
names.
-/

namespace UsageReports

/-- The service types with what makes their sources, each type once. -/
structure Catalog (α : Type) where
  makers : List (String × (Provider → Except SourceError α))

namespace Catalog

variable {α : Type}

/-- A catalog without service types. -/
def empty : Catalog α := ⟨[]⟩

/-- Add a service type, or make its sources another way. -/
def insert (c : Catalog α) (serviceType : String) (make : Provider → Except SourceError α) :
    Catalog α :=
  ⟨Keyed.put Prod.fst (serviceType, make) c.makers⟩

/-- The service type of sources over HTTP. -/
def httpType : String := "http_json"

/-- The catalog of sources over HTTP. -/
def http (settings : HttpSettings) : Catalog HttpSource :=
  empty.insert httpType (HttpSource.ofProvider settings)

/-- Make the source of a provider. -/
def create (c : Catalog α) (p : Provider) : Except SourceError α :=
  match c.makers.lookup p.serviceType with
  | some make => make p
  | none => .error (.unknownService p.serviceType)

/-- The service types in order. -/
def serviceTypes (c : Catalog α) : List String := sortedSet (c.makers.map Prod.fst)

/-- A catalog as it describes itself. -/
def description (c : Catalog α) : String :=
  "FetcherRegistry \x7b service_types: [" ++
    ", ".intercalate (c.serviceTypes.map quotedText) ++ "] \x7d"

end Catalog

/-- A source as it describes itself. -/
def HttpSource.description (s : HttpSource) : String :=
  "HttpReportFetcher \x7b base_url: " ++ quotedText s.base.text ++ ", provider_id: " ++
    quotedText s.provider ++ ", .. \x7d"

end UsageReports
