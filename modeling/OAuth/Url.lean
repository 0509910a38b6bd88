import OAuth.Url.Path

/-!
# URLs

A URL as it is known once its text is read: all that is not allowed is escaped, the host is in
its written form, and the port of the scheme is left out. `Url.toText` writes it.
-/

namespace OAuth

namespace Url

/-- Who asks, and whom. -/
structure Authority where
  /-- the name of the one who asks; empty if there is none -/
  username : Text
  /-- the password of the one who asks -/
  password : Option Text
  /-- the server -/
  host : Option Host
  /-- the port, unless it is that of the scheme -/
  port : Option Nat
  deriving DecidableEq, Repr

namespace Authority

/-- Whether there are credentials to write. -/
def hasCredentials (a : Authority) : Bool := !a.username.isEmpty || a.password.isSome

/-- A part with a sign before it, if it is there. -/
def signed (sign : Char) : Option Text → Text
  | some part => sign :: part
  | none => []

/-- The credentials in their written form. -/
def credentialsText (a : Authority) : Text :=
  if a.hasCredentials then a.username ++ signed ':' a.password ++ ['@'] else []

/-- The host in its written form; empty if there is none. -/
def hostText (a : Authority) : Text :=
  match a.host with
  | some host => host.toText
  | none => []

/-- The port in its written form. -/
def portText (a : Authority) : Text := signed ':' (a.port.map Text.decimal)

/-- An authority in its written form. -/
def toText (a : Authority) : Text := a.credentialsText ++ a.hostText ++ a.portText

end Authority

end Url

/-- The address of something on a server. -/
structure Url where
  /-- how it is asked for, in lower case -/
  scheme : Text
  /-- who asks, and whom -/
  authority : Option Url.Authority
  /-- where it is on the server -/
  path : Url.Path
  /-- what is asked for there -/
  query : Option Text
  /-- which part of it is meant -/
  fragment : Option Text
  deriving DecidableEq, Repr

namespace Url

/-- The path in its written form; two strokes at the start of a path are not those of an
authority. -/
def pathText (url : Url) : Text :=
  match url.authority, url.path.toText with
  | none, '/' :: '/' :: rest => '/' :: '.' :: '/' :: '/' :: rest
  | _, text => text

/-- The authority in its written form, with the strokes before it. -/
def authorityText (url : Url) : Text :=
  match url.authority with
  | some a => '/' :: '/' :: a.toText
  | none => []

/-- A URL in its written form. -/
def toText (url : Url) : Text :=
  url.scheme ++ ':' :: (url.authorityText ++ url.pathText ++ Authority.signed '?' url.query ++
    Authority.signed '#' url.fragment)

/-- The server, if there is one. -/
def host? (url : Url) : Option Host := url.authority.bind Authority.host

end Url

end OAuth
