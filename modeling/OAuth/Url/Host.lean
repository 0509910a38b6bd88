import OAuth.Domain
import OAuth.Percent
import OAuth.Url.Fault
import OAuth.Url.Ipv6

/-!
# Hosts

Under a scheme of the web a host is an address or a domain in ASCII. Under any other scheme a
host that is no address in brackets is a name that only has to be free of separators.
-/

namespace OAuth.Url

/-- Where a server is. -/
inductive Host where
  /-- a domain in ASCII -/
  | domain (name : Text)
  /-- an address of four bytes -/
  | ipv4 (address : Ipv4)
  /-- an address of eight groups -/
  | ipv6 (address : Ipv6)
  /-- a name that is no domain -/
  | plain (text : Text)
  deriving DecidableEq, Repr

namespace Host

/-- A host in its written form. -/
def toText : Host → Text
  | .domain name => name
  | .ipv4 address => address.toText
  | .ipv6 address => '[' :: (address.toText ++ [']'])
  | .plain text => text

/-- The characters that are escaped wherever they stand in a URL. -/
def isPlain (c : Char) : Bool := 0x20 ≤ c.toNat && c.toNat < 0x7F

/-- The characters that no name has. -/
def isForbidden (c : Char) : Bool := "\x00\t\n\r #/:<>?@[\\]^|".toList.contains c

/-- The address that a text in brackets spells, the opening one being left out. -/
def bracketed (s : Text) : Except Fault Host :=
  match (Text.before? [']'] s).bind Ipv6.ofText? with
  | some address => .ok (.ipv6 address)
  | none => .error .invalidIpv6

/-- The host of a scheme of the web. -/
def ofWeb : Text → Except Fault Host
  | [] => .error .emptyHost
  | '[' :: rest => bracketed rest
  | s =>
    match (Utf8.decode? (Percent.bytes s)).bind Domain.toAscii? with
    | none => .error .invalidDomain
    | some [] => .error .emptyHost
    | some name =>
      if Ipv4.endsInNumber name then
        match Ipv4.ofText? name with
        | some address => .ok (.ipv4 address)
        | none => .error .invalidIpv4
      else .ok (.domain name)

/-- The host of any other scheme, which may be missing. -/
def ofOther : Text → Except Fault (Option Host)
  | [] => .ok none
  | '[' :: rest => (bracketed rest).map some
  | s =>
    if s.any isForbidden then .error .invalidHostCharacter
    else .ok (some (.plain (Percent.escape isPlain s)))

end Host

end OAuth.Url
