import UsageReports.Harvest.HttpReport
import UsageReports.Harvest.Reply
import UsageReports.Provider
import UsageReports.Settings.Settings
import UsageReports.Text.Lowercase
import UsageReports.Web.Exchange

/-!
# Sources over HTTP

A source that is asked over HTTP: each report type has a URL under the base URL of the provider, the
months are fields of the query, and so are the parameters of the provider.
-/

namespace UsageReports

/-- How the reports of a provider are asked for, and how their bytes are read. -/
structure HttpSource where
  base : Url
  provider : String
  params : List (String × String)
  agent : String
  timeout : Nat
  charsets : Charsets := westernCharsets

/-- The base URL of a provider, with a slash at its end. -/
def baseUrlOf (raw : String) : Except String Url :=
  if trim raw.toList = [] then .error "base_url is empty"
  else
    match Url.ofText raw with
    | .error e => .error s!"invalid base_url '{raw}': {e.message}"
    | .ok url => .ok { url with path := url.path.closed }

/-- Whether an agent's name can be sent. -/
def isAgentName (s : String) : Bool := s.toList.all fun c => (0x20 ≤ c.toNat && c.toNat ≠ 0x7F) || c == '\t'

namespace HttpSource

/-- The source of a provider. -/
def ofProvider (settings : HttpSettings) (p : Provider) : Except SourceError HttpSource :=
  match baseUrlOf p.baseUrl with
  | .error reason => .error (.setup p.id reason)
  | .ok base =>
    if isAgentName settings.userAgent then
      .ok { base, provider := p.id, params := p.params, agent := settings.userAgent
            timeout := settings.requestTimeout }
    else .error (.setup p.id "builder error")

/-- The URL of a report type. -/
def reportUrl (s : HttpSource) (reportType : String) : Except FetchError Url :=
  match s.base.join ("reports/" ++ lowercase reportType) with
  | .ok url => .ok url
  | .error e => .error (.failure s!"invalid report url: {e.message}")

/-- The fields of the query for a range. -/
def fields (s : HttpSource) (range : Range) : List (String × String) :=
  ("begin_date", range.first.text) :: ("end_date", range.last.text) :: s.params

/-- The longest part of a body that a reason shows. -/
def maxExcerpt : Nat := 200

/-- The statuses of an answer that refuses the report. -/
def refusals : List Nat := [400, 404, 422]

/-- What an answer means for a range that was asked for. -/
def resultOf (s : HttpSource) (range : Range) (answer : Answer) : Except FetchError (List Record) :=
  if answer.isSuccess then
    match HttpReport.ofText? (answer.text s.charsets) with
    | some report => report.result s.provider range
    | none => .error (.failure "failed to decode report: no report")
  else if answer.status = 429 then .error .rateLimited
  else
    let excerpt := String.ofList ((answer.text s.charsets).toList.take maxExcerpt)
    let reason := s!"HTTP {answer.status}: {excerpt}"
    .error (if refusals.contains answer.status then .invalidReport reason else .failure reason)

/-- Fetch a range. -/
def fetch {σ : Type} (s : HttpSource) (net : Network σ) (range : Range) (state : σ) :
    Except FetchError (List Record) × σ :=
  match s.reportUrl range.reportType with
  | .error e => (.error e, state)
  | .ok url =>
    match net.get s.agent s.timeout url (s.fields range) state with
    | (.error fault, state) => (.error (.failure fault.message), state)
    | (.ok answer, state) => (s.resultOf range answer, state)

end HttpSource

/-- The reply that a fetch stands for. -/
def Reply.ofResult : Except FetchError (List Record) → Reply
  | .ok found => .records found
  | .error e => .refused e

end UsageReports
