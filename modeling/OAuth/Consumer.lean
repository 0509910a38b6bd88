import OAuth.Error
import OAuth.Placement
import OAuth.Request.Plain
import OAuth.Signature

/-!
# Consumers

A consumer signs requests for one client application. What an earlier signing left on a request
is taken off first; then the parameters are collected from four places, completed with those of
the protocol, signed and written. Time and chance come in as a `Stamp`, so that `Consumer.sign`
is a function; `Consumer.signedParams` are the parameters that it signs.
-/

namespace OAuth

/-- What makes a signing unlike any other. -/
structure Stamp where
  /-- a value that no other request of the same second has -/
  nonce : Text
  /-- the time in seconds -/
  timestamp : Text
  deriving DecidableEq, Repr

namespace Stamp

/-- The stamp of 128 random bits and a time in seconds. -/
def make (bits seconds : Nat) : Stamp :=
  ⟨(BigEndian.ofNat 16 bits).flatMap Hex.ofByte, Text.decimal seconds⟩

end Stamp

/-- A client application, and the token that it has. -/
structure Consumer where
  /-- the name of the application -/
  key : Text
  /-- the secret that belongs to the name -/
  secret : Text
  /-- the token, if there is one -/
  token : Option Text := none
  /-- the secret that belongs to the token -/
  tokenSecret : Option Text := none
  /-- how requests are signed -/
  method : SignatureMethod := .standard
  /-- where signatures are written -/
  placement : Placement := .standard
  /-- parameters for every request, in written form -/
  additional : Params := .empty
  /-- whether an empty token is written when there is none -/
  sendsEmptyToken : Bool := false
  deriving DecidableEq

namespace Consumer

/-- The consumer with a token. -/
def withToken (c : Consumer) (token secret : Text) : Consumer :=
  { c with token := some token, tokenSecret := some secret }

/-- The consumer without a token. -/
def withoutToken (c : Consumer) : Consumer := { c with token := none, tokenSecret := none }

/-- Whether the consumer has a name and a secret. -/
def hasCredentials (c : Consumer) : Bool := !c.key.isEmpty && !c.secret.isEmpty

/-- What the consumer signs with. -/
def signer (c : Consumer) : Signer := ⟨c.method, c.secret, c.tokenSecret.getD []⟩

/-! ## Collecting -/

section Collecting

variable {ρ : Type} [Request ρ]

/-- Whether a URL has fields that an earlier signing may have written. -/
def hasGenerated (url : Text) : Bool := (Reference.keys url).any Key.generated.contains

/-- A request without the fields that an earlier signing may have written. -/
def strip (r : ρ) : ρ :=
  if hasGenerated (Request.url r) then
    Request.withUrl r (Reference.removeKeys (Request.url r) Key.generated)
  else r

/-- Whether an element of an old authorization header is kept. -/
def isKeptElement (key : Text) : Bool := key == Key.realm || !Key.isReserved key

/-- The parameters in the authorization header that are kept. -/
def headerParams (r : ρ) : Params :=
  match (Request.header? r authorizationHeader).bind Authorization.params? with
  | some params => params.filter isKeptElement
  | none => .empty

/-- The fields of the query. -/
def queryFields (r : ρ) : List Form.Field := (Reference.ofText (Request.url r)).fields

/-- The fields of the body, if it is a form. -/
def bodyFields (r : ρ) : List Form.Field :=
  if Request.hasForm r then
    match Request.payload? r with
    | some bytes => Form.decode (Utf8.decode bytes)
    | none => []
  else []

/-- The parameters from all places. -/
def collect (c : Consumer) (r : ρ) : Params :=
  ((c.additional.union (headerParams r)).insertFields (queryFields r)).insertFields (bodyFields r)

end Collecting

/-! ## Completing -/

/-- The parameters with a value for a key, unless they have one. -/
def complete (params : Params) (key value : Text) : Params :=
  if params.contains key then params else params.insertEncoded key value

/-- The token that is written: the consumer's, or an empty one if that is wanted. -/
def sentToken? (c : Consumer) : Option Text :=
  match c.token with
  | some (first :: rest) => some (first :: rest)
  | _ => if c.sendsEmptyToken then some [] else none

/-- The values of the protocol's parameters. -/
def protocolValues (c : Consumer) (stamp : Stamp) : List (Text × Text) :=
  [(Key.consumerKey, c.key), (Key.signatureMethod, c.method.name),
    (Key.timestamp, stamp.timestamp), (Key.nonce, stamp.nonce),
    (Key.version, protocolVersion)] ++ (c.sentToken?.map fun token => (Key.token, token)).toList

/-- Parameters completed with those of the protocol. -/
def completeAll (c : Consumer) (stamp : Stamp) (params : Params) : Params :=
  (c.protocolValues stamp).foldl (fun params value => complete params value.1 value.2) params

/-! ## Signing -/

section Signing

variable {ρ : Type} [Request ρ]

/-- The parameters that are signed for a request from which an earlier signing is taken off. -/
def signedParams (c : Consumer) (stamp : Stamp) (r : ρ) : Params :=
  (c.completeAll stamp (c.collect r)).erase Key.signature

/-- The signature of a request from which an earlier signing is taken off. -/
def signature (c : Consumer) (stamp : Stamp) (r : ρ) : Except SigningFault Text :=
  c.signer.sign (Request.method r) (Request.url r) (c.signedParams stamp r)

/-- The text that was written onto a request, or what went wrong, and the request then. -/
def sign (c : Consumer) (stamp : Stamp) (r : ρ) : Except Error Text × ρ :=
  if c.hasCredentials then
    let r := strip r
    match c.signature stamp r with
    | .ok signature =>
      let (written, r) := c.placement.write signature r (c.signedParams stamp r)
      (.ok written, r)
    | .error fault => (.error (.signing fault), r)
  else (.error .credentialsMissing, r)

end Signing

/-- A URL that asks for something, signed behind its query. -/
def signUrl (c : Consumer) (stamp : Stamp) (url : Text) : Except Error Text :=
  ({ c with placement := .query }.sign stamp (PlainRequest.get url)).1

end Consumer

end OAuth
