import UsageReports.Web.Host

/-!
# URLs

A URL by its parts, and its text. Behind a host the path is a list of segments; some schemes have a
text without hierarchy in place of both.
-/

namespace UsageReports

/-- Where a URL leads. -/
inductive UrlPath where
  /-- Segments, each after a slash. -/
  | segments (parts : List String)
  /-- A text without hierarchy. -/
  | flat (text : String)
deriving DecidableEq

namespace UrlPath

/-- A path as a URL shows it. -/
def chars : UrlPath → List Char
  | segments parts => parts.flatMap fun s => '/' :: s.toList
  | flat text => text.toList

/-- A path with a slash at its end. -/
def closed : UrlPath → UrlPath
  | segments parts => if parts.getLast? = some "" then segments parts else segments (parts ++ [""])
  | flat text =>
    if text = "" then flat "%2F" else if text.toList.getLast? = some '/' then flat text
    else flat (text ++ "/")

end UrlPath

/-- A URL. All parts are as they are shown. -/
structure Url where
  scheme : String
  username : String := ""
  password : String := ""
  host : Option Host := none
  port : Option Nat := none
  path : UrlPath
  query : Option String := none
  fragment : Option String := none
deriving DecidableEq

namespace Url

/-- The special schemes and their default ports. -/
def specialSchemes : List (String × Option Nat) :=
  [("http", some 80), ("https", some 443), ("ws", some 80), ("wss", some 443), ("ftp", some 21),
    ("file", none)]

/-- Whether a scheme is special. -/
def isSpecial (scheme : String) : Bool := (specialSchemes.lookup scheme).isSome

/-- The port of a scheme that need not be given. -/
def defaultPort? (scheme : String) : Option Nat := (specialSchemes.lookup scheme).join

/-- The user name and password with their marks. -/
def credentialChars (u : Url) : List Char :=
  if u.username = "" ∧ u.password = "" then []
  else
    u.username.toList ++ (if u.password = "" then [] else ':' :: u.password.toList) ++ ['@']

/-- Whether there is a host. -/
def hasHost (u : Url) : Bool := u.host.any Host.isPresent

/-- What stands between the scheme and the path. -/
def authorityChars (u : Url) : List Char :=
  match u.host with
  | some host =>
    '/' :: '/' :: u.credentialChars ++ host.chars ++
      ((u.port.map fun p => ':' :: digits p).getD [])
  | none =>
    match u.path with
    | .segments ("" :: _ :: _) => ['/', '.']
    | _ => []

/-- The path and the query. -/
def targetChars (u : Url) : List Char :=
  u.path.chars ++ ((u.query.map fun q => '?' :: q.toList).getD [])

/-- The path and the query as a request names them. -/
def target (u : Url) : String := String.ofList u.targetChars

/-- The text of a URL. -/
def text (u : Url) : String :=
  String.ofList <|
    u.scheme.toList ++ ':' :: u.authorityChars ++ u.targetChars ++
      ((u.fragment.map fun f => '#' :: f.toList).getD [])

/-- The text that a part of a URL stands for. -/
def meaning? (part : String) : Option String := textOfBytes? (percentDecode part.toList)

/-- A URL without its user name and password, as far as these can be read: a name that is no text
stays with its password, and so does a password that is no text where there is no name. -/
def anonymous (u : Url) : Url :=
  match meaning? u.username with
  | none => u
  | some "" =>
    if (meaning? u.password).isNone then u else { u with password := "" }
  | some _ => { u with username := "", password := "" }

/-- Add fields to the query. -/
def withFields (u : Url) (fields : List (String × String)) : Url :=
  if fields = [] then u
  else
    let added := ['&'].intercalate (fields.map fun (k, v) => formField k v)
    let query := match u.query with
      | none | some "" => added
      | some q => q.toList ++ '&' :: added
    { u with query := some (String.ofList query) }

end Url

end UsageReports
