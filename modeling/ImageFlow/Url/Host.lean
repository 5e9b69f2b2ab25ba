import ImageFlow.Url.Address
import ImageFlow.Url.Domain

/-!
# Hosts

The host of a URL: a domain, or an address.  A domain whose last part is a number has to be an
address of four octets, and brackets hold an address of eight pieces.
-/

namespace ImageFlow.Url

inductive UrlProblem where
  /-- It has no scheme, and nothing to be relative to. -/
  | relative
  | emptyHost
  | badDomain
  | badDomainCharacter
  | badPort
  | badIpv4
  | badIpv6
  deriving DecidableEq, Inhabited

def UrlProblem.message : UrlProblem → String
  | relative => "relative URL without a base"
  | emptyHost => "empty host"
  | badDomain => "invalid international domain name"
  | badDomainCharacter => "invalid domain character"
  | badPort => "invalid port number"
  | badIpv4 => "invalid IPv4 address"
  | badIpv6 => "invalid IPv6 address"

inductive Host where
  | domain (name : String)
  | ipv4 (address : Nat)
  | ipv6 (pieces : List Nat)
  deriving DecidableEq, Inhabited

/-- The characters that no host of a URL with a scheme of its own may hold. -/
def forbiddenInOpaqueHost (c : Char) : Bool :=
  ['\x00', '\t', '\n', '\r', ' ', '#', '/', ':', '<', '>', '?', '@', '[', '\\', ']', '^',
    '|'].contains c

/-- An address of eight pieces in brackets; `cs` follows the opening one. -/
def bracketed (cs : List Char) : Except UrlProblem Host :=
  match cs.getLast?, ipv6? cs.dropLast with
  | some ']', some pieces => .ok (.ipv6 pieces)
  | _, _ => .error .badIpv6

def Host.parse : List Char → Except UrlProblem Host
  | '[' :: cs => bracketed cs
  | cs =>
    match (String.fromUTF8? (percentDecode cs).toByteArray).bind fun s => domain? s.toList with
    | none => .error .badDomain
    | some [] => .error .emptyHost
    | some name =>
      if endsInNumber name then
        match ipv4? name with
        | some address => .ok (.ipv4 address)
        | none => .error .badIpv4
      else .ok (.domain (String.ofList name))

/-- The host of a URL with a scheme of its own; it may be empty. -/
def Host.parseOpaque : List Char → Except UrlProblem Host
  | '[' :: cs => bracketed cs
  | cs =>
    if cs.any forbiddenInOpaqueHost then .error .badDomainCharacter
    else
      let kept := fun (c : Char) => 0x20 ≤ c.toNat && c.toNat < 0x7F
      .ok (.domain (String.ofList (percentEncode kept cs)))

end ImageFlow.Url
