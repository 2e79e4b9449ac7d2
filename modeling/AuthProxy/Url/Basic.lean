/-!
# URLs

What is kept of a URL, its scheme and host, and why a text is not a URL. Paths, queries and credentials are never
wrong by themselves, so that they are not kept.
-/

namespace AuthProxy.Url

/-- A host. -/
inductive Host where
  /-- A domain in normal form, or the name of a host under a scheme that does not say what a host is. -/
  | domain (name : List Char)
  | ipv4 (address : Nat)
  | ipv6 (groups : List Nat)
deriving Repr, DecidableEq

/-- Why a text is not a URL. -/
inductive Malformed where
  | relative
  | emptyHost
  | invalidPort
  | invalidIpv4
  | invalidIpv6
  | invalidDomainCharacter
  | invalidDomain
deriving Repr, DecidableEq

/-- What is wrong with a text, in words. -/
def Malformed.message : Malformed → String
  | relative => "relative URL without a base"
  | emptyHost => "empty host"
  | invalidPort => "invalid port number"
  | invalidIpv4 => "invalid IPv4 address"
  | invalidIpv6 => "invalid IPv6 address"
  | invalidDomainCharacter => "invalid domain character"
  | invalidDomain => "invalid international domain name"

end AuthProxy.Url

namespace AuthProxy

/-- A URL; the host is absent or not empty. -/
structure Url where
  scheme : List Char
  host : Option Url.Host
deriving Repr, DecidableEq

end AuthProxy
