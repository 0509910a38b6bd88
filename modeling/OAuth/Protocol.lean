import OAuth.Text

/-!
# Protocol names

The names that the protocol reserves for parameters and headers, and the lists of them that
decide what is written, and what an earlier signing may have left behind.
-/

namespace OAuth

namespace Key

/-- Where the user is sent after granting access. -/
def callback : Text := "oauth_callback".toList
/-- Whether the server has taken note of the callback. -/
def callbackConfirmed : Text := "oauth_callback_confirmed".toList
/-- The name of the client application. -/
def consumerKey : Text := "oauth_consumer_key".toList
/-- A value that no other request of the same second has. -/
def nonce : Text := "oauth_nonce".toList
/-- The signature. -/
def signature : Text := "oauth_signature".toList
/-- How the signature is made. -/
def signatureMethod : Text := "oauth_signature_method".toList
/-- The time of signing, in seconds. -/
def timestamp : Text := "oauth_timestamp".toList
/-- The token the request is made with. -/
def token : Text := "oauth_token".toList
/-- The secret that belongs to a token. -/
def tokenSecret : Text := "oauth_token_secret".toList
/-- What the user brings back from granting access. -/
def verifier : Text := "oauth_verifier".toList
/-- The version of the protocol. -/
def version : Text := "oauth_version".toList
/-- The protection space, which is sent and not signed. -/
def realm : Text := "realm".toList

/-- How the protocol's own keys begin. -/
def reserved : Text := "oauth_".toList
/-- How the keys of its extensions begin. -/
def extension : Text := "x_oauth_".toList

/-- The keys that every signed request carries, in the order of writing. -/
def mandatory : List Text := [consumerKey, version, signatureMethod, timestamp, nonce]

/-- The keys that a signed request may carry, in the order of writing. -/
def optional : List Text := [token, callback, verifier]

/-- The keys of query fields that an earlier signing may have written. -/
def generated : List Text :=
  [signature, nonce, timestamp, consumerKey, signatureMethod, version, token]

/-- Whether a key is one of the protocol's own. -/
def isReserved (key : Text) : Bool := reserved.isPrefixOf key

/-- Whether a key is one of the protocol or of its extensions. -/
def isProtocol (key : Text) : Bool := isReserved key || extension.isPrefixOf key

end Key

/-- The version of the protocol that is spoken. -/
def protocolVersion : Text := "1.0".toList

/-- The callback of an application that cannot be called back. -/
def outOfBand : Text := "oob".toList

/-- The header that carries credentials. -/
def authorizationHeader : Text := "Authorization".toList

/-- The header that tells the media type of a body. -/
def contentTypeHeader : Text := "Content-Type".toList

end OAuth
