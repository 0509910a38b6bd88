import OAuth.Form
import OAuth.Protocol

/-!
# Requests

What signing needs of a request: to look at its parts, and to change its URL and its headers.
Two kinds of requests are in the library, `PlainRequest`, which stores whatever it is given, and
`WireRequest`, which stores only what can be sent.
-/

namespace OAuth

/-- The requests of a kind. -/
class Request (ρ : Type) where
  /-- the method -/
  method : ρ → Text
  /-- the request with another method -/
  withMethod : ρ → Text → ρ
  /-- the text of the URL -/
  url : ρ → Text
  /-- the request with another URL -/
  withUrl : ρ → Text → ρ
  /-- the value of the header with a name, in any case -/
  header? : ρ → Text → Option Text
  /-- the request with one value for a header -/
  withHeader : ρ → Text → Text → ρ
  /-- the headers -/
  headers : ρ → List (Text × Text)
  /-- the bytes of the body, if there is one and it can be looked at -/
  payload? : ρ → Option (List UInt8)

namespace Request

variable {ρ : Type} [Request ρ]

/-- The media type of the body. -/
def contentType? (r : ρ) : Option Text := header? r contentTypeHeader

/-- Whether the body is a form. -/
def hasForm (r : ρ) : Bool := (contentType? r).any Form.isFormEncoded

/-- The request with the values for some headers, one after the other. -/
def withHeaders (r : ρ) (headers : List (Text × Text)) : ρ :=
  headers.foldl (fun r header => withHeader r header.1 header.2) r

end Request

end OAuth
