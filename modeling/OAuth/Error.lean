import OAuth.Protocol
import OAuth.SigningFault

/-!
# Errors

What can go wrong between asking for a signature or a token and having it.
-/

namespace OAuth

/-- What went wrong. -/
inductive Error where
  /-- the key or the secret of the client application is empty -/
  | credentialsMissing
  /-- there is no request token to exchange -/
  | requestTokenMissing
  /-- a reply lacks the token or its secret -/
  | tokenKeyNotFound (key body : Text)
  /-- the server refused -/
  | notAuthorized (body : Text)
  /-- a request could not be made or sent, or its reply not read -/
  | transport (message : Text)
  /-- the server replied with an error -/
  | refused (message body : Text)
  /-- the request was not signed -/
  | signing (fault : SigningFault)
  deriving DecidableEq, Repr

namespace Error

/-- An error in words. -/
def message : Error → Text
  | .credentialsMissing => "expectation failed : consumer key or secret not set".toList
  | .requestTokenMissing =>
    "expectation failed : authorized request token or token secret not set, ".toList ++
      "did you retrieve an authorized request token before?".toList
  | .tokenKeyNotFound key body =>
    "expectation failed : ".toList ++ key ++
      " not set in server reply, the service provider you use is probably buggy : ".toList ++ body
  | .notAuthorized body =>
    "authorization failed (server replied with a 401) : ".toList ++ body
  | .transport message | .refused message _ =>
    "communication with the service provider failed : ".toList ++ message
  | .signing fault => "OAuth sign failed : ".toList ++ fault.message

/-- The body of the reply that told of the error. -/
def body? : Error → Option Text
  | .notAuthorized body | .refused _ body => some body
  | _ => none

end Error

end OAuth
