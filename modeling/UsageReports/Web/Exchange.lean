import UsageReports.Text.Blank
import UsageReports.Text.Charset
import UsageReports.Web.UrlText

/-!
# Exchanges with servers

A request asks a server for what a URL names. The server may answer, close the connection or keep
silent. An answer may send the asker to another URL, which is followed a number of times.
-/

namespace UsageReports

/-- What a server answers. -/
structure Answer where
  status : Nat
  headers : List (String × String) := []
  body : String
deriving DecidableEq

/-- What a server does with a request. -/
inductive Served where
  | answered (answer : Answer)
  | closed
  | silent
deriving DecidableEq

/-- A request for what a URL names, in the name of an agent. -/
structure Request where
  url : Url
  agent : String
deriving DecidableEq

/-- Why there is no answer, and at which URL it came to that. -/
inductive ExchangeFault where
  /-- The URL is none that can be asked for. -/
  | unusable (url : Url)
  | unsent (url : Url)
  | timedOut (url : Url)
  | redirectedTooOften (url : Url)
deriving DecidableEq

/-- The fault as it is reported. -/
def ExchangeFault.message : ExchangeFault → String
  | unusable url => s!"builder error for url ({url.text})"
  | unsent url => s!"error sending request for url ({url.text})"
  | timedOut url => s!"request timed out: error sending request for url ({url.text})"
  | redirectedTooOften url => s!"error following redirect for url ({url.text})"

namespace Answer

/-- The value of a header; case does not count in its name. -/
def header? (a : Answer) (name : String) : Option String :=
  (a.headers.find? fun h => h.1.map Char.toLower = name).map Prod.snd

/-- The statuses that send the asker elsewhere. -/
def redirectStatuses : List Nat := [301, 302, 303, 307, 308]

/-- Where an answer to a request for a URL sends the asker: to a host, and to no place within what
it serves. -/
def redirect? (a : Answer) (asked : Url) : Option Url :=
  if redirectStatuses.contains a.status then
    (((a.header? "location").bind fun location => (asked.join location).toOption).filter
      Url.hasHost).map fun url => { url with fragment := none }
  else none

/-- Whether an answer brings what was asked for. -/
def isSuccess (a : Answer) : Bool := 200 ≤ a.status && a.status < 300

/-- The statuses whose answers have no body. -/
def bodiless : List Nat := [204, 304]

/-- The character set that an answer names for its body. -/
def charset? (a : Answer) : Option String := do
  let parts := (splitAtEach ';' (← a.header? "content-type").toList).drop 1
  parts.findSome? fun part =>
    match splitAtFirst '=' (trim part) with
    | (name, some value) =>
      if name.map Char.toLower = "charset".toList then
        some (String.ofList ((value.filter (· ≠ '"')).map Char.toLower))
      else none
    | _ => none

/-- The body as text. A byte order mark in front is left out, and speaks for UTF-8. -/
def text (a : Answer) (charsets : Charsets) : String :=
  if bodiless.contains a.status then ""
  else
    match a.body.toList with
    | '\ufeff' :: cs => String.ofList cs
    | _ =>
      match a.charset?.bind charsets with
      | some read => read a.body
      | none => a.body

end Answer

/-- Servers with a state: what becomes of a request. -/
abbrev Network (σ : Type) := Request → σ → Served × σ

namespace Network

variable {σ : Type}

/-- How often an asker lets itself be sent elsewhere. -/
def maxRedirects : Nat := 10

/-- Whether servers speak the scheme of a URL. -/
def speaks (url : Url) : Bool := url.scheme = "http" || url.scheme = "https"

/-- Send a request, and follow so often where it leads. A server that gives no answer is blamed on
the URL `asked` that was asked for at first. -/
def send (net : Network σ) (agent : String) (asked : Url) :
    Nat → Url → σ → Except ExchangeFault Answer × σ
  | left, url, state =>
    match net ⟨url, agent⟩ state with
    | (.closed, state) => (.error (.unsent asked), state)
    | (.silent, state) => (.error (.timedOut asked), state)
    | (.answered answer, state) =>
      match answer.redirect? url, left with
      | none, _ => (.ok answer, state)
      | some _, 0 => (.error (.redirectedTooOften url), state)
      | some next, left + 1 =>
        if speaks next then send net agent asked left next state else (.error (.unusable next), state)

/-- The characters of a host that no request names. -/
def unnamed : List Char := ['"', '`', '\x7b', '\x7d']

/-- Whether a URL can be asked for. -/
def canAsk (url : Url) : Bool := speaks url && !url.host.any fun h => h.chars.any unnamed.contains

/-- Ask for what a URL names, with fields added to its query. A URL without a host is refused before
fields are added. Without any time to answer, no server is asked. -/
def get (net : Network σ) (agent : String) (timeout : Nat) (url : Url)
    (fields : List (String × String)) (state : σ) : Except ExchangeFault Answer × σ :=
  if !url.hasHost then (.error (.unusable url), state)
  else
    let url := url.anonymous.withFields fields
    if !canAsk url then (.error (.unusable url), state)
    else if timeout = 0 then (.error (.timedOut url), state)
    else net.send agent url maxRedirects url state

end Network

end UsageReports
