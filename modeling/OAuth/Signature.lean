import OAuth.BaseString
import OAuth.Digest.Hmac

/-!
# Signatures

Three ways to sign: with the secrets themselves, with a digest keyed by them, or with a private
key. Only the first does not look at the request.
-/

namespace OAuth

/-- How a signature is made. -/
inductive SignatureMethod where
  /-- with the secrets themselves -/
  | plaintext
  /-- with a digest keyed by the secrets -/
  | hmacSha1
  /-- with a private key -/
  | rsaSha1
  deriving DecidableEq, Repr

namespace SignatureMethod

/-- All methods. -/
def all : List SignatureMethod := [.plaintext, .hmacSha1, .rsaSha1]

/-- The method that is used unless another is asked for. -/
def standard : SignatureMethod := .hmacSha1

instance : Inhabited SignatureMethod := ⟨standard⟩

/-- The name of a method. -/
def name : SignatureMethod → Text
  | .plaintext => "PLAINTEXT".toList
  | .hmacSha1 => "HMAC-SHA1".toList
  | .rsaSha1 => "RSA-SHA1".toList

/-- The method of a name, in any case. -/
def ofName (s : Text) : Except SigningFault SignatureMethod :=
  match all.find? fun method => Text.sameLetters method.name s with
  | some method => .ok method
  | none => .error (.unknownMethod s)

theorem ofName_name (method : SignatureMethod) : ofName method.name = .ok method := by
  cases method <;> rfl

end SignatureMethod

/-- What a signature is made with. -/
structure Signer where
  /-- how it is made -/
  method : SignatureMethod
  /-- the secret of the client application -/
  consumerSecret : Text
  /-- the secret of the token; empty without one -/
  tokenSecret : Text
  deriving DecidableEq, Repr

namespace Signer

/-- Both secrets encoded, with a `&` between them. -/
def key (signer : Signer) : Text :=
  Percent.encode signer.consumerSecret ++ '&' :: Percent.encode signer.tokenSecret

/-- The signature of a base string by a private key. -/
def rsa (secret base : Text) : Except SigningFault Text :=
  match Rsa.PrivateKey.ofSecret secret with
  | .error fault => .error (.unusableSecret fault)
  | .ok key =>
    match key.sign (Utf8.encode base) with
    | .error fault => .error (.rsa fault)
    | .ok bytes => .ok (Base64.encode bytes)

/-- The signature of a base string. -/
def signBase (signer : Signer) (base : Text) : Except SigningFault Text :=
  match signer.method with
  | .plaintext => .ok signer.key
  | .hmacSha1 => .ok (Base64.encode (Hmac.sha1 (Utf8.encode signer.key) (Utf8.encode base)))
  | .rsaSha1 => rsa signer.consumerSecret base

/-- The signature of a request; the secrets themselves do not depend on it. -/
def sign (signer : Signer) (method url : Text) (params : Params) : Except SigningFault Text :=
  match signer.method with
  | .plaintext => .ok signer.key
  | _ => do signer.signBase (← BaseString.make method url params)

end Signer

end OAuth
