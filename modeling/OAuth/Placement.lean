import OAuth.Authorization
import OAuth.Reference
import OAuth.Request

/-!
# Placement of signatures

A signature and the parameters of the protocol are written into the authorization header, or
behind the query of the URL. Parameters that the URL carries already are not written again, but
the mandatory ones always stand in the header.
-/

namespace OAuth

/-- Where a signature is written. -/
inductive Placement where
  /-- into the authorization header -/
  | header
  /-- behind the query -/
  | query
  deriving DecidableEq, Repr

namespace Placement

/-- The placement that is used unless another is asked for. -/
def standard : Placement := .header

instance : Inhabited Placement := ⟨standard⟩

/-- The name of a placement. -/
def name : Placement → Text
  | .header => "AuthorizationHeader".toList
  | .query => "QueryString".toList

/-- All placements. -/
def all : List Placement := [.header, .query]

/-- The placement of a name. -/
def ofName? (s : Text) : Option Placement := all.find? fun placement => placement.name == s

theorem ofName?_name (placement : Placement) : ofName? placement.name = some placement := by
  cases placement <;> rfl

/-- The keys of a URL's query, in written form. -/
def carriedKeys (url : Text) : List Text := (Reference.keys url).map Percent.encode

/-- The pair of the signature, in written form. -/
def signaturePair (signature : Text) : Pair := (Key.signature, Percent.encode signature)

/-- The elements of the header. -/
def headerElements (signature : Text) (params : Params) (carried : List Text) : List Text :=
  (params.headerText? Key.realm).toList ++
    (Key.optional.filter fun key => !carried.contains key).filterMap params.headerText? ++
    Key.mandatory.filterMap params.headerText? ++ [(signaturePair signature).headerText]

/-- The value of the header. -/
def headerValue (signature : Text) (params : Params) (carried : List Text) : Text :=
  Authorization.write (headerElements signature params carried)

/-- The fields that are put behind the query. -/
def queryFields (signature : Text) (params : Params) (carried : List Text) : List Text :=
  (signaturePair signature).queryText ::
    ((Key.optional.filter fun key => params.contains key && !carried.contains key) ++
      Key.mandatory.filter fun key => !carried.contains key).map params.queryText

/-- The URL with the fields behind its query, instead of an earlier signature. -/
def signedUrl (url signature : Text) (params : Params) : Text :=
  let carried := carriedKeys url
  let bare :=
    if carried.contains Key.signature then Reference.removeKeys url [Key.signature] else url
  Reference.append bare (Text.join ['&'] (queryFields signature params carried))

variable {ρ : Type} [Request ρ]

/-- The signature written onto a request, and the text that was written. -/
def write (placement : Placement) (signature : Text) (r : ρ) (params : Params) : Text × ρ :=
  match placement with
  | .header =>
    let value := headerValue signature params (carriedKeys (Request.url r))
    (value, Request.withHeader r authorizationHeader value)
  | .query =>
    let url := signedUrl (Request.url r) signature params
    (url, Request.withUrl r url)

end Placement

end OAuth
