import UsageReports.Harvest.ProviderRun

/-!
# Scripted sources

A source that answers from a script: for a range of a provider, one reply after the other, the last
of them again and again. What the script does not mention is answered with one success for each
month.
-/

namespace UsageReports

/-- The replies to fetches of one range, and how many of them were taken. An absent reply stands for
the plain one. Without a provider they are for all providers. -/
structure Scripted where
  range : Range
  provider : Option String
  replies : List (Option Reply)
  taken : Nat := 0

/-- A script. -/
abbrev Script := List Scripted

namespace Script

/-- One success for each month of a range, whose payload names the month. -/
def plain (range : Range) : Reply :=
  .records <| range.months.map fun m =>
    .success "" range.reportType m (Json.object [("month", .str m.text)])

/-- The next reply of an entry. -/
def next (s : Scripted) : Reply :=
  (s.replies[min s.taken (s.replies.length - 1)]?.join).getD (plain s.range)

/-- Answer a fetch of a provider's range. -/
def fetchFor (provider : String) : Script → Range → Reply × Script
  | [], range => (plain range, [])
  | s :: rest, range =>
    if s.range = range && s.provider.all (· = provider) then
      (next s, { s with taken := s.taken + 1 } :: rest)
    else
      let (r, rest) := fetchFor provider rest range
      (r, s :: rest)

end Script

/-- Sources that answer from a script and keep the fetches they were asked for. -/
structure ScriptedSources where
  script : Script
  calls : List (String × Range) := []

namespace ScriptedSources

/-- The service type of scripted sources. -/
def serviceType : String := "scripted"

/-- Whether there is a scripted source for a provider: one with a broken base URL has none. -/
def create (p : Provider) : Except SourceError Unit :=
  if p.serviceType ≠ serviceType then .error (.unknownService p.serviceType)
  else if p.baseUrl = "broken" then .error (.setup p.id "scripted init failure")
  else .ok ()

/-- Fetch a range of a provider. -/
def fetch (p : Provider) (s : ScriptedSources) (range : Range) : Reply × ScriptedSources :=
  let (r, script) := Script.fetchFor p.id s.script range
  (r, { script, calls := s.calls ++ [(p.id, range)] })

end ScriptedSources

end UsageReports
