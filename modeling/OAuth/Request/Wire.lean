import OAuth.Base64
import OAuth.Request
import OAuth.Request.Plain
import OAuth.Url.Parse

/-!
# Requests for the wire

A request that stores only what can be sent: a method and header names that are tokens, header
values without controls, and a URL in its written form. A change to anything else is ignored.

Credentials in the URL that a request begins with are sent in a header, and not in the URL.
-/

namespace OAuth

/-- What is sent behind the headers. -/
inductive WireRequest.Body where
  /-- nothing -/
  | absent
  /-- these bytes -/
  | bytes (bytes : List UInt8)
  /-- bytes that come while they are sent -/
  | stream
  deriving DecidableEq, Repr

/-- A request that can be sent. -/
structure WireRequest where
  /-- the method -/
  method : Text
  /-- the URL -/
  url : Url
  /-- the headers, their names in lower case, in the order in which they came -/
  headers : List (Text × List UInt8)
  /-- what is sent behind the headers -/
  body : WireRequest.Body
  deriving DecidableEq, Repr

namespace WireRequest

/-- Whether a character may stand in a method or in the name of a header. -/
def isTokenChar (c : Char) : Bool := c.isAlphanum || "!#$%&'*+-.^_`|~".toList.contains c

/-- Whether a text is a method or the name of a header. -/
def isToken (s : Text) : Bool := !s.isEmpty && s.all isTokenChar

/-- Whether a byte may stand in the value of a header. -/
def isValueByte (b : UInt8) : Bool := (32 ≤ b && b != 127) || b == 9

/-- Whether a byte of a value is a character that can be read. -/
def isVisibleByte (b : UInt8) : Bool := (32 ≤ b && b < 127) || b == 9

/-- The text of a value, if all of it can be read. -/
def readValue? (value : List UInt8) : Option Text :=
  if value.all isVisibleByte then some (value.map fun b => Char.ofNat b.toNat) else none

/-- The values of a header. -/
def values (r : WireRequest) (name : Text) : List (List UInt8) :=
  (r.headers.filter fun header => header.1 == Text.toLower name).map Prod.snd

instance : Request WireRequest where
  method r := r.method
  withMethod r method := if isToken method then { r with method } else r
  url r := r.url.toText
  withUrl r url :=
    match Url.parse url with
    | .ok url => { r with url }
    | .error _ => r
  header? r name := (r.values name).head?.bind readValue?
  withHeader r name value :=
    let bytes := Utf8.encode value
    if isToken name && bytes.all isValueByte then
      let others := r.headers.filter fun header => header.1 != Text.toLower name
      { r with headers := others ++ [(Text.toLower name, bytes)] }
    else r
  headers r := r.headers.filterMap fun header =>
    (readValue? header.2).map fun value => (header.1, value)
  payload? r :=
    match r.body with
    | .bytes bytes => some bytes
    | _ => none

/-! ## Building -/

/-- Why a request was not built. -/
inductive Fault where
  /-- a part of it cannot be sent -/
  | malformed
  /-- its URL names no server, or it cannot be reached under the scheme -/
  | unreachable (url : Url)
  deriving DecidableEq, Repr

/-- A fault in words. -/
def Fault.message : Fault → Text
  | .malformed => "builder error".toList
  | .unreachable url => "builder error for url (".toList ++ url.toText ++ [')']

/-- A part of credentials with its escapes undone, if that gives a text. -/
def unescape? (s : Text) : Option Text := Utf8.decode? (Percent.bytes s)

/-- The name and the password in a URL. -/
def credentials? (a : Url.Authority) : Option (Text × Option Text) :=
  (unescape? a.username).bind fun username =>
    let password := a.password.bind unescape?
    if username.isEmpty && password.isNone then none else some (username, password)

/-- The value of the header that carries a name and a password. -/
def basicValue (username : Text) (password : Option Text) : Text :=
  "Basic ".toList ++ Base64.encode (Utf8.encode (username ++ ':' :: password.getD []))

/-- A URL without credentials, and the headers that carry them. -/
def extractCredentials (url : Url) : Url × List (Text × List UInt8) :=
  match url.authority with
  | none => (url, [])
  | some a =>
    match credentials? a with
    | none => (url, [])
    | some (username, password) =>
      ({ url with authority := some { a with username := [], password := none } },
        [(Text.toLower authorizationHeader, Utf8.encode (basicValue username password))])

/-- A request without a body. -/
def create (method url : Text) : Except Fault WireRequest :=
  match Url.parse url with
  | .error _ => .error .malformed
  | .ok url =>
    if url.host?.isNone then .error (.unreachable url)
    else if isToken method then
      let (url, headers) := extractCredentials url
      .ok { method, url, headers, body := .absent }
    else .error .malformed

/-- A request with one more header. -/
def addHeader (r : WireRequest) (name : Text) (value : List UInt8) : Except Fault WireRequest :=
  if isToken name && value.all isValueByte then
    .ok { r with headers := r.headers ++ [(Text.toLower name, value)] }
  else .error .malformed

/-- A request with headers and a body. -/
def build (method url : Text) (headers : List (Text × List UInt8)) (body : Body) :
    Except Fault WireRequest := do
  let r ← headers.foldlM (fun r header => r.addHeader header.1 header.2) (← create method url)
  return { r with body }

/-- The schemes under which a server can be reached. -/
def reachableSchemes : List Text := ["http".toList, "https".toList]

/-- What keeps a request from being sent, if anything does. -/
def fault? (r : WireRequest) : Option Fault :=
  if reachableSchemes.contains r.url.scheme then none else some (.unreachable r.url)

end WireRequest

end OAuth
