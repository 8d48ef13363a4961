import UsageReports.Text.Split
import UsageReports.Web.Url

/-!
# Reading URLs

A URL is read from its text, which may be relative to another URL. The text is cleaned of blanks
around it and of line breaks and tabs within, cut at the first `#` and the first `?`, and then read
as a scheme, an authority and a path. A path keeps no `.` and `..`.
-/

namespace UsageReports

/-- The parts of a text that may be a URL, before they mean anything. -/
structure UrlParts where
  scheme : Option String
  /-- Authority and path. -/
  body : List Char
  query : Option (List Char)
  fragment : Option (List Char)

namespace UrlParts

/-- A text without controls and blanks around it and without line breaks and tabs within. -/
def cleaned (cs : List Char) : List Char :=
  let bare (cs : List Char) : List Char := cs.dropWhile (·.toNat ≤ 0x20)
  (bare (bare cs).reverse).reverse.filter fun c => c ≠ '\t' ∧ c ≠ '\n' ∧ c ≠ '\r'

/-- Whether a scheme may hold a character. -/
def isSchemeChar (c : Char) : Bool := c.isAlphanum || c == '+' || c == '-' || c == '.'

/-- The scheme in front of a text, and what follows its colon. -/
def scheme? (cs : List Char) : Option (String × List Char) :=
  match splitAtFirst ':' cs with
  | (c :: name, some rest) =>
    if c.isAlpha && name.all isSchemeChar then
      some (String.ofList ((c :: name).map Char.toLower), rest)
    else none
  | _ => none

/-- Cut a text into parts. -/
def ofChars (cs : List Char) : UrlParts :=
  let (front, fragment) := splitAtFirst '#' (cleaned cs)
  let (front, query) := splitAtFirst '?' front
  match scheme? front with
  | some (scheme, body) => ⟨some scheme, body, query, fragment⟩
  | none => ⟨none, front, query, fragment⟩

end UrlParts

namespace Url

/-! ## Paths -/

/-- Whether a segment stands for the directory it is in. -/
def isDot (segment : List Char) : Bool :=
  segment == ['.'] || segment.map Char.toLower == ['%', '2', 'e']

/-- Whether a segment stands for the directory above. -/
def isDoubleDot : List Char → Bool
  | '.' :: rest => isDot rest
  | '%' :: '2' :: e :: rest => isDot ['%', '2', e] && isDot rest
  | _ => false

/-- Whether a segment names a drive: a letter, and a colon or a bar. -/
def isDrive : List Char → Bool
  | [letter, mark] => letter.isAlpha && (mark == ':' || mark == '|')
  | _ => false

/-- Whether a text begins with a segment that names a drive. -/
def startsWithDrive (cs : List Char) : Bool := isDrive (cs.takeWhile fun c => c ≠ '/' ∧ c ≠ '\\')

/-- Leave the last segment; a drive that is all there is stays. -/
def shortened (isFile : Bool) (parts : List String) : List String :=
  match parts with
  | [drive] => if isFile && isDrive drive.toList then parts else []
  | _ => parts.dropLast

/-- A segment as a path keeps it after others. A file's path that begins with a drive has a slash
behind it. -/
def keptSegments (isFile : Bool) (before : List String) (segment : List Char) : List String :=
  let shown (cs : List Char) : String := String.ofList (percentEncode .path cs)
  if isFile && before.isEmpty then
    match segment with
    | [letter, mark] => [if isDrive segment then String.ofList [letter, ':'] else shown [letter, mark]]
    | letter :: ':' :: rest =>
      if letter.isAlpha then [String.ofList [letter, ':'], shown rest] else [shown segment]
    | _ => [shown segment]
  else [shown segment]

/-- Go on from some segments along others; a path that ends in a directory ends in a slash. -/
def follow (isFile : Bool) (parts : List String) : List (List Char) → List String
  | [] => parts
  | [last] =>
    if isDoubleDot last then shortened isFile parts ++ [""]
    else if isDot last then parts ++ [""]
    else parts ++ keptSegments isFile parts last
  | segment :: rest =>
    if isDoubleDot segment then follow isFile (shortened isFile parts) rest
    else if isDot segment then follow isFile parts rest
    else follow isFile (parts ++ keptSegments isFile parts segment) rest

/-- Leave out the empty segments in front of others. -/
def withoutEmptyFront : List String → List String
  | "" :: s :: rest => withoutEmptyFront (s :: rest)
  | parts => parts

/-- Go on along a path. The special schemes take a backslash for a slash, and a file's path has no
empty segments in front. -/
def extend (scheme : String) (parts : List String) (cs : List Char) : List String :=
  let cs := if isSpecial scheme then cs.map fun c => if c = '\\' then '/' else c else cs
  let parts := follow (scheme = "file") parts (splitAtEach '/' cs)
  if scheme = "file" then withoutEmptyFront parts else parts

/-- Whether a character is a slash for a scheme. -/
def isSlash (scheme : String) (c : Char) : Bool := c == '/' || (c == '\\' && isSpecial scheme)

/-- The path that follows an authority. -/
def rootPath (scheme : String) (cs : List Char) : List String :=
  match cs with
  | [] => if isSpecial scheme then [""] else []
  | c :: rest => extend scheme [] (if isSlash scheme c then rest else cs)

/-! ## Authorities -/

/-- Cut a host from the port that follows it. A colon in brackets belongs to the host. -/
def cutPort (inBrackets : Bool) : List Char → List Char × Option (List Char)
  | [] => ([], none)
  | c :: cs =>
    if c = ':' ∧ !inBrackets then ([], some cs)
    else
      let (host, port) := cutPort (if c = '[' then true else if c = ']' then false else inBrackets) cs
      (c :: host, port)

/-- The port of a scheme, none where it need not be given. -/
def portOf (scheme : String) : List Char → Except UrlError (Option Nat)
  | [] => .ok none
  | cs =>
    match (natOfDigits? cs).filter (· ≤ 65535) with
    | none => .error .badPort
    | some port => .ok (if defaultPort? scheme = some port then none else some port)

/-- The user name and password of an authority, as they are shown. -/
def credentialsOf (cs : List Char) : String × String :=
  let (name, password) := splitAtFirst ':' cs
  let shown (cs : List Char) : String := String.ofList (percentEncode .credentials cs)
  (shown name, shown (password.getD []))

/-- A URL whose authority is given; the path is still to come. -/
def ofAuthority (scheme : String) (cs : List Char) : Except UrlError Url := do
  let (credentials, address) := splitAtLast '@' cs
  let (hostText, portText) := cutPort false address
  if hostText = [] ∧ (isSpecial scheme ∨ portText.isSome ∨ credentials = some []) then .error .emptyHost
  else
    let host ← if isSpecial scheme then Host.ofSpecial hostText else Host.ofOther hostText
    let port ← portOf scheme (portText.getD [])
    let (username, password) := credentialsOf (credentials.getD [])
    pure { scheme, username, password, host := some host, port, path := .segments [] }

/-- The URL of an authority and what follows it. -/
def ofAuthorityAndPath (scheme : String) (cs : List Char) : Except UrlError Url := do
  let isPart (c : Char) : Bool := !isSlash scheme c
  let u ← ofAuthority scheme (cs.takeWhile isPart)
  pure { u with path := .segments (rootPath scheme (cs.dropWhile isPart)) }

/-! ## Files -/

/-- The URL of a file on a host. -/
def ofFileHost (cs : List Char) : Except UrlError Url := do
  let isPart (c : Char) : Bool := !isSlash "file" c
  let hostText := cs.takeWhile isPart
  let nowhere : Host := .name ""
  if isDrive hostText then
    pure { scheme := "file", host := some nowhere, path := .segments (extend "file" [] cs) }
  else
    let host ← if hostText = [] then pure nowhere else Host.ofSpecial hostText
    let parts := rootPath "file" (cs.dropWhile isPart)
    let isLocal := host = .name "localhost" || parts.head?.any (isDrive ·.toList)
    pure { scheme := "file", host := some (if isLocal then nowhere else host)
           path := .segments parts }

/-- The segments of a base that a path goes on from. -/
def baseParts (base : Url) : List String :=
  match base.path with
  | .segments parts => parts
  | .flat _ => []

/-- The URL of a file, beside the base of another. The query of the base stays where nothing is
given anew. -/
def ofFile (base : Option Url) (p : UrlParts) : Except UrlError Url :=
  let nowhere : Url := { scheme := "file", host := some (.name ""), path := .segments [] }
  match p.body with
  | c :: rest =>
    if isSlash "file" c then
      let drive := ((base.map baseParts).getD []).take 1
      if rest.head?.any (isSlash "file") then ofFileHost (rest.drop 1)
      else if startsWithDrive rest then .ok { nowhere with path := .segments (extend "file" [] rest) }
      else if drive.any (isDrive ·.toList) then
        .ok { nowhere with path := .segments (extend "file" drive rest) }
      else
        .ok { nowhere with host := ((base.map Url.host).getD nowhere.host)
                           path := .segments (extend "file" [] rest) }
    else
      match base with
      | some b =>
        if startsWithDrive p.body then .ok { nowhere with path := .segments (extend "file" [] p.body) }
        else
          .ok { b with path := .segments (extend "file" (shortened true (baseParts b)) p.body)
                       query := none }
      | none => .ok { nowhere with path := .segments (extend "file" [] p.body) }
  | [] =>
    match base with
    | some b => .ok { b with query := if p.query.isSome then none else b.query }
    | none => .ok { nowhere with path := .segments [""] }

/-! ## Whole URLs -/

/-- How many slashes a text begins with. -/
def slashesInFront (scheme : String) (cs : List Char) : Nat := (cs.takeWhile (isSlash scheme)).length

/-- A URL relative to a base with the same scheme. -/
def ofRelative (base : Url) (p : UrlParts) : Except UrlError Url :=
  let scheme := base.scheme
  let slashes := slashesInFront scheme p.body
  match p.body with
  | [] => .ok { base with query := if p.query.isSome then none else base.query }
  | _ :: rest =>
    if 2 ≤ slashes then
      ofAuthorityAndPath scheme (p.body.drop (if isSpecial scheme then slashes else 2))
    else if slashes = 1 then
      .ok { base with path := .segments (extend scheme [] rest), query := none }
    else
      .ok { base with path := .segments (extend scheme (baseParts base).dropLast p.body)
                      query := none }

/-- A URL with a scheme of its own. -/
def ofAbsolute (base : Option Url) (scheme : String) (p : UrlParts) : Except UrlError Url :=
  let slashes := slashesInFront scheme p.body
  let sibling := base.filter (·.scheme = scheme)
  if scheme = "file" then ofFile sibling p
  else if isSpecial scheme then
    match sibling with
    | some b =>
      if slashes < 2 then ofRelative b p else ofAuthorityAndPath scheme (p.body.drop slashes)
    | none => ofAuthorityAndPath scheme (p.body.drop slashes)
  else if 2 ≤ slashes then ofAuthorityAndPath scheme (p.body.drop 2)
  else if slashes = 1 then
    .ok { scheme, path := .segments (extend scheme [] (p.body.drop 1)) }
  else .ok { scheme, path := .flat (String.ofList (percentEncode .plain p.body)) }

/-- Put in the query and the fragment that were given. -/
def withTail (p : UrlParts) (u : Url) : Url :=
  let part := if isSpecial u.scheme then UrlPart.specialQuery else .query
  { u with
    query := match p.query with
      | some q => some (String.ofList (percentEncode part q))
      | none => u.query
    fragment := p.fragment.map fun f => String.ofList (percentEncode .fragment f) }

/-- Read a URL that may be relative to a base. -/
def ofParts (base : Option Url) (p : UrlParts) : Except UrlError Url :=
  (match p.scheme, base with
    | some scheme, base => ofAbsolute base scheme p
    | none, none => .error .noBase
    | none, some b =>
      match b.path with
      | .flat _ =>
        if p.body = [] ∧ p.query = none ∧ p.fragment.isSome then .ok b else .error .flatBase
      | .segments _ => if b.scheme = "file" then ofFile (some b) p else ofRelative b p).map
    (withTail p)

/-- Read a URL. -/
def ofText (s : String) : Except UrlError Url := ofParts none (.ofChars s.toList)

/-- The URL that a text means beside a base. -/
def join (base : Url) (s : String) : Except UrlError Url := ofParts (some base) (.ofChars s.toList)

end Url

end UsageReports
