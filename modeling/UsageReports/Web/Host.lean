import UsageReports.Web.Address
import UsageReports.Web.Domain

/-!
# Hosts

The host of a URL: a name or an address. Of the special schemes every host is a domain or an
address; of the others a host is any text without the marks that URLs are made of, or an address in
brackets.
-/

namespace UsageReports

/-- What makes a text no URL. -/
inductive UrlError where
  | noBase
  /-- A relative URL beside a base without hierarchy. -/
  | flatBase
  | emptyHost
  | badPort
  | badIpv4
  | badIpv6
  | badDomain
  | badHostCharacter
deriving DecidableEq

/-- The error as it is reported. -/
def UrlError.message : UrlError → String
  | noBase => "relative URL without a base"
  | flatBase => "relative URL with a cannot-be-a-base base"
  | emptyHost => "empty host"
  | badPort => "invalid port number"
  | badIpv4 => "invalid IPv4 address"
  | badIpv6 => "invalid IPv6 address"
  | badDomain => "invalid international domain name"
  | badHostCharacter => "invalid domain character"

/-- The host of a URL. -/
inductive Host where
  /-- A domain in ASCII, a name as it is shown, or nothing. -/
  | name (text : String)
  /-- Four bytes as one number. -/
  | ipv4 (address : Nat)
  | ipv6 (pieces : List Nat)
deriving DecidableEq

namespace Host

/-- A host as a URL shows it. -/
def chars : Host → List Char
  | name text => text.toList
  | ipv4 address => ipv4Chars address
  | ipv6 pieces => '[' :: ipv6Chars pieces ++ [']']

/-- Whether there is a host at all. -/
def isPresent (h : Host) : Bool := h ≠ name ""

/-- An address in brackets; the first bracket is given already. -/
def ofBracketed (cs : List Char) : Except UrlError Host :=
  if cs.getLast? = some ']' then
    match ipv6OfText? cs.dropLast with
    | some pieces => .ok (ipv6 pieces)
    | none => .error .badIpv6
  else .error .badIpv6

/-- The host of a URL with a special scheme. -/
def ofSpecial : List Char → Except UrlError Host
  | '[' :: cs => ofBracketed cs
  | cs =>
    match ((textOfBytes? (percentDecode cs)).map String.toList).bind Domain.toAscii? with
    | none => .error .badDomain
    | some [] => .error .emptyHost
    | some domain =>
      if endsInNumber domain then
        match ipv4OfText? domain with
        | some address => .ok (ipv4 address)
        | none => .error .badIpv4
      else .ok (name (String.ofList domain))

/-- The characters that no other host holds. -/
def forbidden : List Char :=
  ['\x00', '\t', '\n', '\r', ' ', '#', '/', ':', '<', '>', '?', '@', '[', '\\', ']', '^', '|']

/-- The host of a URL with another scheme. -/
def ofOther : List Char → Except UrlError Host
  | '[' :: cs => ofBracketed cs
  | cs =>
    if cs.any forbidden.contains then .error .badHostCharacter
    else .ok (name (String.ofList (percentEncode .plain cs)))

end Host

end UsageReports
