import OAuth.Params
import OAuth.SigningFault
import OAuth.Url.Parse

/-!
# Base strings

What is signed of a request: its method, its URL in normal form, and its parameters in canonical
order, each encoded and joined by `&`. The signature itself and the realm are not signed.
-/

namespace OAuth.BaseString

/-- Credentials, server and port in lower case; credentials without a name do not count. -/
def authorityText (a : Url.Authority) : Text :=
  let credentials := if a.username.isEmpty then [] else a.credentialsText
  Text.toLower (credentials ++ a.hostText ++ a.portText)

/-- A path in its written form, which is never empty. -/
def pathText (path : Url.Path) : Text :=
  match path.toText with
  | [] => ['/']
  | text => text

/-- The normal form of a URL, without query and fragment; none if it names no server. -/
def ofUrl? (url : Url) : Option Text :=
  match url.authority with
  | some a =>
    if a.hostText.isEmpty then none
    else some (url.scheme ++ "://".toList ++ authorityText a ++ pathText url.path)
  | none => none

/-- The normal form of a URL's text. -/
def normalizeUrl (url : Text) : Except SigningFault Text :=
  match Url.parse url with
  | .error fault => .error (.malformedUrl fault)
  | .ok parsed =>
    match ofUrl? parsed with
    | some text => .ok text
    | none => .error (.missingAuthority url)

/-- Whether the pairs of a key are signed. -/
def isSigned (key : Text) : Bool := key != Key.signature && key != Key.realm

/-- The signed parameters in canonical order. -/
def paramsText (params : Params) : Text :=
  Text.join ['&'] ((params.pairs.filter fun pair => isSigned pair.1).map Pair.queryText)

/-- The base string of a method, a URL in normal form and parameters. -/
def join (method url params : Text) : Text :=
  Percent.encode method ++ '&' :: Percent.encode url ++ '&' :: Percent.encode params

/-- The base string of a request. -/
def make (method url : Text) (params : Params) : Except SigningFault Text :=
  (normalizeUrl url).map fun normal => join method normal (paramsText params)

end OAuth.BaseString
