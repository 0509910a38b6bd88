import OAuth.Text

/-!
# Faults of URLs

Why a text is no URL.
-/

namespace OAuth.Url

/-- Why a text is no URL. -/
inductive Fault where
  /-- a host is called for and there is none -/
  | emptyHost
  /-- the host is a domain with no form in ASCII -/
  | invalidDomain
  /-- the port is no number below 65536 -/
  | invalidPort
  /-- the host ends in a number and is no address -/
  | invalidIpv4
  /-- the host is in brackets and is no address -/
  | invalidIpv6
  /-- the host has a character that no host has -/
  | invalidHostCharacter
  /-- the text does not begin with a scheme -/
  | noScheme
  deriving DecidableEq, Repr

/-- A fault in words. -/
def Fault.message : Fault → Text
  | .emptyHost => "empty host".toList
  | .invalidDomain => "invalid international domain name".toList
  | .invalidPort => "invalid port number".toList
  | .invalidIpv4 => "invalid IPv4 address".toList
  | .invalidIpv6 => "invalid IPv6 address".toList
  | .invalidHostCharacter => "invalid domain character".toList
  | .noScheme => "relative URL without a base".toList

end OAuth.Url
