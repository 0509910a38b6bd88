import OAuth.Rsa.Key
import OAuth.Url.Fault

/-!
# Faults in signing

Why a request was not signed, and the words for it.
-/

namespace OAuth

/-- Why a request was not signed. -/
inductive SigningFault where
  /-- no signature method has this name -/
  | unknownMethod (name : Text)
  /-- the request's URL is none -/
  | malformedUrl (fault : Url.Fault)
  /-- the request's URL names no server -/
  | missingAuthority (url : Text)
  /-- the secret is no private key -/
  | unusableSecret (fault : Rsa.PrivateKey.Fault)
  /-- the private key did not sign -/
  | rsa (fault : Rsa.Fault)
  deriving DecidableEq, Repr

/-- A fault in words. -/
def SigningFault.message : SigningFault → Text
  | .unknownMethod name => "unknown signature method : ".toList ++ name
  | .malformedUrl fault => "malformed request url : ".toList ++ fault.message
  | .missingAuthority url => "request url has no authority : ".toList ++ url
  | .unusableSecret (.base64 fault) =>
    "consumer secret is not valid base64 : ".toList ++ fault.message
  | .unusableSecret .unusable => "consumer secret is not a usable RSA private key".toList
  | .rsa fault => "RSA-SHA1 signing failed : signature error: ".toList ++ fault.message

end OAuth
