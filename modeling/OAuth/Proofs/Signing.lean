import OAuth.Proofs.BaseString
import OAuth.Proofs.SignedParams

/-!
# What signing changes

A signing takes off the query what an earlier one left there, and then changes one thing: the
header or the URL. The main statements say what is read from the signed request, for each
placement: `Consumer.elements_headerValue` and `Consumer.queryFields_signBehind`. A signature is
the same where the normal form of the URL and the parameters that count are
(`BaseString.make_of_filter` and `Signer.sign_of_make`).
-/

namespace OAuth

/-- Whether the fields of a key are taken off before a signing. -/
def Key.isGenerated (key : Text) : Bool := Key.generated.contains key

theorem Key.isGenerated_iff {key : Text} : Key.isGenerated key = true ↔ key ∈ Key.generated :=
  List.contains_iff_mem

namespace Consumer

/-! ## Taking an earlier signing off -/

/-- A text without the fields that an earlier signing may have written. -/
def stripUrl (url : Text) : Text :=
  if hasGenerated url then Reference.removeKeys url Key.generated else url

theorem strip_eq (r : PlainRequest) : strip r = { r with url := stripUrl r.url } := by
  have hurl : Request.url r = r.url := rfl
  rw [strip, hurl, stripUrl]
  by_cases h : hasGenerated r.url = true
  · rw [if_pos h, if_pos h]
    rfl
  · rw [if_neg h, if_neg h]

theorem hasGenerated_eq_false {url : Text} :
    hasGenerated url = false ↔ ∀ key ∈ Reference.keys url, key ∉ Key.generated := by
  simp [hasGenerated]

/-- **Exactly the fields that an earlier signing may have written are taken off.** -/
theorem fields_stripUrl (url : Text) : (Reference.ofText (stripUrl url)).fields =
    (Reference.ofText url).fields.filter fun field => !Key.isGenerated field.1 := by
  unfold stripUrl
  split
  · rw [Reference.ofText_removeKeys, Reference.fields_withoutKeys]
    rfl
  · next h =>
    rw [Bool.not_eq_true, hasGenerated_eq_false] at h
    refine (List.filter_eq_self.2 fun field hfield => ?_).symm
    rw [Bool.not_eq_true', ← Bool.not_eq_true, Key.isGenerated_iff]
    exact h field.1 (List.mem_map_of_mem hfield)

theorem not_mem_generated {url key : Text} (h : key ∈ Reference.keys (stripUrl url)) :
    key ∉ Key.generated := by
  obtain ⟨field, hfield, rfl⟩ := List.mem_map.1 h
  rw [fields_stripUrl, List.mem_filter, Bool.not_eq_true', ← Bool.not_eq_true,
    Key.isGenerated_iff] at hfield
  exact hfield.2

/-- Taking off twice is taking off once. -/
theorem stripUrl_stripUrl (url : Text) : stripUrl (stripUrl url) = stripUrl url := by
  have h : hasGenerated (stripUrl url) = false :=
    hasGenerated_eq_false.2 fun _ hkey => not_mem_generated hkey
  rw [stripUrl, h]
  rfl

theorem strip_strip (r : PlainRequest) : strip (strip r) = strip r := by
  rw [strip_eq, strip_eq, stripUrl_stripUrl]

theorem base_stripUrl (url : Text) :
    (Reference.ofText (stripUrl url)).base = (Reference.ofText url).base := by
  unfold stripUrl
  split
  · rw [Reference.ofText_removeKeys, Reference.base_withoutKeys]
  · rfl

theorem fragment_stripUrl (url : Text) :
    (Reference.ofText (stripUrl url)).fragment = (Reference.ofText url).fragment := by
  unfold stripUrl
  split
  · rw [Reference.ofText_removeKeys, Reference.fragment_withoutKeys]
  · rfl

theorem isTidy_stripUrl {url : Text} (h : Url.IsTidy url) : Url.IsTidy (stripUrl url) := by
  unfold stripUrl
  split
  · rw [← Reference.toText_ofText url] at h
    exact h.withoutKeys Key.generated
  · exact h

/-! ## What can be read back -/

/-- Consumers whose parameters can be read back from a header. -/
structure IsReadable (c : Consumer) : Prop where
  /-- the values that are written, but for the realm, are in written form -/
  additional : c.additional.IsReadable
  /-- the realms have no quotes -/
  realm : ∀ realm, (Key.realm, realm) ∈ c.additional → '"' ∉ realm

theorem isReadable_of_isWritten {c : Consumer} (h : c.additional.IsWritten) : c.IsReadable where
  additional := h.isReadable
  realm realm hrealm := (h (Key.realm, realm) hrealm).2.not_mem (by decide)

/-- Requests with no quotes in the realms of their header. -/
def HasPlainRealm (r : PlainRequest) : Prop :=
  ∀ realm, (Key.realm, realm) ∈ elements r → '"' ∉ realm

instance (r : PlainRequest) : Decidable (HasPlainRealm r) :=
  decidable_of_iff (∀ pair ∈ elements r, pair.1 = Key.realm → '"' ∉ pair.2)
    ⟨fun h realm hmem => h (Key.realm, realm) hmem rfl,
      fun h pair hmem hkey => h pair.2 (hkey ▸ hmem)⟩

section Requests

variable {c : Consumer} {stamp : Stamp} {r r' : PlainRequest} {written : Text}

/-- No key that signing writes is carried once an earlier signing is taken off. -/
theorem not_mem_carriedKeys_strip {key : Text} (h : key ∈ Key.generated) (r : PlainRequest) :
    key ∉ Placement.carriedKeys (strip r).url := by
  rw [Placement.mem_carriedKeys (Key.isKey_of_mem_generated h), strip_eq]
  exact fun hmem => not_mem_generated hmem h

/-! ## Places that stay -/

theorem elements_strip (r : PlainRequest) : elements (strip r) = elements r := by
  rw [strip_eq]
  rfl

theorem headerParams_strip (r : PlainRequest) : headerParams (strip r) = headerParams r := by
  rw [strip_eq]
  rfl

theorem bodyPairs_strip (r : PlainRequest) : bodyPairs (strip r) = bodyPairs r := by
  rw [strip_eq]
  rfl

/-- The authorization header does not tell the media type of the body. -/
theorem bodyFields_withHeader (r : PlainRequest) (value : Text) :
    bodyFields (Request.withHeader r authorizationHeader value) = bodyFields r := by
  have hct : Request.contentType? (Request.withHeader r authorizationHeader value) =
      Request.contentType? r := PlainRequest.header?_withHeader_of_ne value (by decide)
  have hform : Request.hasForm (Request.withHeader r authorizationHeader value) =
      Request.hasForm r := by
    rw [Request.hasForm, hct, Request.hasForm]
  unfold bodyFields
  rw [hform]
  rfl

theorem bodyPairs_withHeader (r : PlainRequest) (value : Text) :
    bodyPairs (Request.withHeader r authorizationHeader value) = bodyPairs r := by
  rw [bodyPairs, bodyFields_withHeader, bodyPairs]

theorem queryPairs_withHeader (r : PlainRequest) (name value : Text) :
    queryPairs (Request.withHeader r name value) = queryPairs r := rfl

/-! ## Signing -/

/-- **What a signing that succeeds has done**: it has made a signature of what is left of the
request, and written it. -/
theorem sign_eq_ok : c.sign stamp r = (.ok written, r') ↔
    c.hasCredentials = true ∧ ∃ signature, c.signature stamp (strip r) = .ok signature ∧
      c.placement.write signature (strip r) (c.signedParams stamp (strip r)) = (written, r') := by
  unfold sign
  cases hcredentials : c.hasCredentials with
  | false => simp
  | true =>
    cases hsignature : c.signature stamp (strip r) with
    | error fault => simp [hsignature]
    | ok signature => simp [hsignature, Prod.ext_iff]

/-- **Why a signing has failed**: the consumer has no credentials, or makes no signature of what is
left of the request. -/
theorem sign_eq_error {error : Error} : c.sign stamp r = (.error error, r') ↔
    c.hasCredentials = false ∧ error = .credentialsMissing ∧ r' = r ∨
      c.hasCredentials = true ∧ ∃ fault, c.signature stamp (strip r) = .error fault ∧
        error = .signing fault ∧ r' = strip r := by
  unfold sign
  cases hcredentials : c.hasCredentials with
  | false => simp [eq_comm]
  | true =>
    cases hsignature : c.signature stamp (strip r) with
    | error fault => simp [hsignature, eq_comm]
    | ok signature => simp [hsignature]

/-- A signing into the header puts the header's value there. -/
theorem sign_header (hplacement : c.placement = .header)
    (h : c.sign stamp r = (.ok written, r')) :
    ∃ signature, c.signature stamp (strip r) = .ok signature ∧
      written = Placement.headerValue signature (c.signedParams stamp (strip r))
        (Placement.carriedKeys (strip r).url) ∧
      r' = Request.withHeader (strip r) authorizationHeader written := by
  obtain ⟨-, signature, hsignature, hwrite⟩ := sign_eq_ok.1 h
  rw [hplacement] at hwrite
  obtain ⟨rfl, rfl⟩ := Prod.mk.inj hwrite
  exact ⟨signature, hsignature, rfl, rfl⟩

/-- A request from which an earlier signing is taken off, with a signature behind its query. -/
def signBehind (r : PlainRequest) (signature : Text) (params : Params) : PlainRequest :=
  { strip r with url := Placement.signedUrl (strip r).url signature params }

/-- A signing behind the query changes the URL to one with the signature. -/
theorem sign_query (hplacement : c.placement = .query) (h : c.sign stamp r = (.ok written, r')) :
    ∃ signature, c.signature stamp (strip r) = .ok signature ∧
      r' = signBehind r signature (c.signedParams stamp (strip r)) ∧ written = r'.url := by
  obtain ⟨-, signature, hsignature, hwrite⟩ := sign_eq_ok.1 h
  rw [hplacement] at hwrite
  obtain ⟨rfl, rfl⟩ := Prod.mk.inj hwrite
  exact ⟨signature, hsignature, rfl, rfl⟩

/-! ## Reading the signed request -/

theorem elements_withHeader (r : PlainRequest) (value : Text) :
    elements (Request.withHeader r authorizationHeader value) =
      (Authorization.read? value).getD [] := by
  rw [elements, PlainRequest.header?_withHeader, Option.bind_some]

/-- **The pairs of a header that is written are the elements of the request.** -/
theorem elements_headerValue {params : Params} (h : params.IsReadable)
    (hrealm : ∀ realm, (Key.realm, realm) ∈ params → '"' ∉ realm) (r : PlainRequest)
    (signature : Text) (carried : List Text) :
    elements (Request.withHeader r authorizationHeader
      (Placement.headerValue signature params carried)) =
      Placement.headerPairs signature params carried := by
  rw [elements_withHeader, Placement.read?_headerValue h fun realm hfirst =>
    hrealm realm (Params.first?_mem hfirst), Option.getD_some]

/-- No realm that is written has quotes. -/
theorem not_mem_of_mem_signedParams (hc : c.IsReadable) (hrealm : HasPlainRealm r) {realm : Text}
    (h : (Key.realm, realm) ∈ c.signedParams stamp (strip r)) : '"' ∉ realm := by
  refine realm_of_mem_signedParams (fun s hs => hs.not_mem (by decide)) hc.realm ?_ h
  rw [elements_strip]
  exact hrealm

/-- A signing into the header puts pairs there that are read back. -/
theorem elements_of_header (hc : c.IsReadable) (hrealm : HasPlainRealm r)
    (hplacement : c.placement = .header) (h : c.sign stamp r = (.ok written, r')) :
    ∃ signature, c.signature stamp (strip r) = .ok signature ∧
      written = Placement.headerValue signature (c.signedParams stamp (strip r))
        (Placement.carriedKeys (strip r).url) ∧
      r' = Request.withHeader (strip r) authorizationHeader written ∧
      elements r' = Placement.headerPairs signature (c.signedParams stamp (strip r))
        (Placement.carriedKeys (strip r).url) := by
  obtain ⟨signature, hsignature, rfl, rfl⟩ := sign_header hplacement h
  refine ⟨signature, hsignature, rfl, rfl, ?_⟩
  exact elements_headerValue (isReadable_signedParams hc.additional)
    (fun realm hmem => not_mem_of_mem_signedParams hc hrealm hmem) _ _ _

/-- A signing behind the query leaves the header and the body as they were. -/
theorem elements_signBehind (r : PlainRequest) (signature : Text) (params : Params) :
    elements (signBehind r signature params) = elements r := elements_strip r

theorem headerParams_signBehind (r : PlainRequest) (signature : Text) (params : Params) :
    headerParams (signBehind r signature params) = headerParams r := headerParams_strip r

theorem bodyPairs_signBehind (r : PlainRequest) (signature : Text) (params : Params) :
    bodyPairs (signBehind r signature params) = bodyPairs r := bodyPairs_strip r

/-- **The pairs that are put behind a query follow the fields that were there.** -/
theorem queryFields_signBehind {params : Params} (h : params.IsReadable) (r : PlainRequest)
    (signature : Text) : queryFields (signBehind r signature params) =
      queryFields (strip r) ++ (Placement.queryPairs signature params
        (Placement.carriedKeys (strip r).url)).map Pair.field := by
  have hfields : (queryFields (strip r)).filter (fun field => field.1 != Key.signature) =
      queryFields (strip r) := by
    refine List.filter_eq_self.2 fun field hfield => ?_
    have hkey : field.1 ∉ Key.generated := by
      rw [strip_eq] at hfield
      have hmem : field.1 ∈ Reference.keys (stripUrl r.url) := List.mem_map_of_mem hfield
      exact not_mem_generated hmem
    rw [bne_iff_ne]
    intro hsignature
    exact hkey (hsignature ▸ List.mem_cons_self)
  have hsigned := Placement.fields_signedUrl h (strip r).url signature
  exact hsigned.trans (congrArg (· ++ _) hfields)

theorem queryPairs_signBehind {params : Params} (h : params.IsReadable) (r : PlainRequest)
    (signature : Text) : queryPairs (signBehind r signature params) =
      queryPairs (strip r) ++
        Placement.queryPairs signature params (Placement.carriedKeys (strip r).url) := by
  rw [queryPairs, queryFields_signBehind h, List.map_append, List.map_map, ← queryPairs]
  refine congrArg (queryPairs (strip r) ++ ·) ?_
  exact (List.map_congr_left fun pair hpair =>
    Pair.encode_field (Placement.isWritten_of_mem_queryPairs h hpair)).trans (List.map_id _)

/-- Nothing before the query changes. -/
theorem base_signBehind {params : Params} (h : params.IsReadable) (r : PlainRequest)
    (signature : Text) : (Reference.ofText (signBehind r signature params).url).base =
      (Reference.ofText r.url).base := by
  rw [signBehind, Placement.base_signedUrl h, strip_eq, base_stripUrl]

/-- Nothing behind the query changes. -/
theorem fragment_signBehind {params : Params} (h : params.IsReadable) (r : PlainRequest)
    (signature : Text) : (Reference.ofText (signBehind r signature params).url).fragment =
      (Reference.ofText r.url).fragment := by
  rw [signBehind, Placement.fragment_signedUrl h, strip_eq, fragment_stripUrl]

theorem isTidy_signedUrl {params : Params} (h : params.IsReadable) {url : Text}
    (htidy : Url.IsTidy url) (signature : Text) :
    Url.IsTidy (Placement.signedUrl url signature params) := by
  have hbare : Url.IsTidy (Placement.bareUrl url) := by
    unfold Placement.bareUrl
    split
    · rw [← Reference.toText_ofText url] at htidy
      exact htidy.withoutKeys _
    · exact htidy
  rw [← Reference.toText_ofText (Placement.bareUrl url)] at hbare
  rw [Placement.signedUrl_eq]
  refine hbare.extend fun c hc => ?_
  exact Form.lt_toNat_of_isFormChar (Form.isFormChar_of_mem
    (fun pair hpair => Placement.isWritten_of_mem_queryPairs h hpair) hc)

theorem isTidy_signBehind {params : Params} (h : params.IsReadable) (htidy : Url.IsTidy r.url)
    (signature : Text) : Url.IsTidy (signBehind r signature params).url := by
  rw [signBehind, strip_eq]
  exact isTidy_signedUrl h (isTidy_stripUrl htidy) signature

/-- Signing leaves the method as it is. -/
theorem method_of_sign (h : c.sign stamp r = (.ok written, r')) : r'.method = r.method := by
  have hstrip : (strip r).method = r.method := by rw [strip_eq]
  cases hplacement : c.placement with
  | header =>
    obtain ⟨signature, -, -, rfl⟩ := sign_header hplacement h
    exact hstrip
  | query =>
    obtain ⟨signature, -, rfl, -⟩ := sign_query hplacement h
    exact hstrip

/-- Signing leaves the body as it is, whether it succeeds or not. -/
theorem bodyFields_sign (c : Consumer) (stamp : Stamp) (r : PlainRequest) :
    bodyFields (c.sign stamp r).2 = bodyFields r := by
  have hstrip : bodyFields (strip r) = bodyFields r := by
    rw [strip_eq]
    rfl
  cases h : c.sign stamp r with
  | mk result r' =>
    cases result with
    | error error =>
      obtain ⟨-, -, rfl⟩ | ⟨-, fault, -, -, rfl⟩ := sign_eq_error.1 h
      · rfl
      · exact hstrip
    | ok written =>
      cases hplacement : c.placement with
      | header =>
        obtain ⟨signature, -, -, rfl⟩ := sign_header hplacement h
        exact (bodyFields_withHeader _ _).trans hstrip
      | query =>
        obtain ⟨signature, -, rfl, -⟩ := sign_query hplacement h
        exact hstrip

theorem bodyPairs_of_sign (h : c.sign stamp r = (.ok written, r')) :
    bodyPairs r' = bodyPairs r := by
  rw [bodyPairs, bodyPairs, ← bodyFields_sign c stamp r, h]

end Requests

end Consumer

/-! ## Signatures that stay the same -/

namespace Signer

variable {signer : Signer} {method url signature : Text} {params : Params}

/-- But for the secrets themselves, what is signed is the base string. -/
theorem sign_of_ne (hmethod : signer.method ≠ .plaintext) : signer.sign method url params =
    (BaseString.make method url params).bind signer.signBase := by
  unfold sign
  split
  · next hplain => exact absurd hplain hmethod
  · rfl

theorem sign_eq_ok_of_ne (hmethod : signer.method ≠ .plaintext) :
    signer.sign method url params = .ok signature ↔ ∃ base,
      BaseString.make method url params = .ok base ∧ signer.signBase base = .ok signature := by
  rw [sign_of_ne hmethod]
  cases BaseString.make method url params <;> simp [Except.bind]

/-- A digest makes a signature of every base string. -/
theorem exists_signBase (hmethod : signer.method = .hmacSha1) (base : Text) :
    ∃ signature, signer.signBase base = .ok signature := by
  rw [signBase, hmethod]
  exact ⟨_, rfl⟩

/-- **A signature is known from the base string.** -/
theorem sign_of_make {url' : Text} {params' : Params}
    (hmake : ∀ base, BaseString.make method url params = .ok base →
      BaseString.make method url' params' = .ok base)
    (h : signer.sign method url params = .ok signature) :
    signer.sign method url' params' = .ok signature := by
  by_cases hmethod : signer.method = .plaintext
  · rw [← h]
    simp only [sign, hmethod]
  · obtain ⟨base, hbase, hsigned⟩ := (sign_eq_ok_of_ne hmethod).1 h
    exact (sign_eq_ok_of_ne hmethod).2 ⟨base, hmake base hbase, hsigned⟩

/-- What is at fault in signing is what is at fault in the base string, or else the same. -/
theorem sign_sameResult {R : SigningFault → SigningFault → Prop} (hrefl : ∀ fault, R fault fault)
    {url' : Text} {params' : Params}
    (hmake : SameResult R (BaseString.make method url params)
      (BaseString.make method url' params')) :
    SameResult R (signer.sign method url params) (signer.sign method url' params') := by
  unfold sign
  split
  · exact .ok signer.key
  · exact hmake.bind hrefl signer.signBase

end Signer

namespace Consumer

/-- **A consumer signs a request with the same signature** where the method, the normal form of the
URL and the parameters that count are the same. -/
theorem signature_congr {c : Consumer} {stamp stamp' : Stamp} {r r' : PlainRequest}
    {signature : Text} (hmethod : r'.method = r.method)
    (hurl : ∀ normal, BaseString.normalizeUrl r.url = .ok normal →
      BaseString.normalizeUrl r'.url = .ok normal)
    (hparams : (c.signedParams stamp r).filter BaseString.isSigned =
      (c.signedParams stamp' r').filter BaseString.isSigned)
    (h : c.signature stamp r = .ok signature) : c.signature stamp' r' = .ok signature := by
  have hsame : Request.method r' = Request.method r := hmethod
  rw [Consumer.signature, hsame]
  exact Signer.sign_of_make (fun _ hbase => BaseString.make_of_filter hurl hparams hbase) h

/-- The same, where there may be no signature. -/
theorem signature_sameResult {c : Consumer} {stamp stamp' : Stamp} {r r' : PlainRequest}
    {R : SigningFault → SigningFault → Prop} (hrefl : ∀ fault, R fault fault)
    (hmethod : r.method = r'.method)
    (hurl : SameResult R (BaseString.normalizeUrl r.url) (BaseString.normalizeUrl r'.url))
    (hparams : (c.signedParams stamp r).filter BaseString.isSigned =
      (c.signedParams stamp' r').filter BaseString.isSigned) :
    SameResult R (c.signature stamp r) (c.signature stamp' r') := by
  have hsame : Request.method r = Request.method r' := hmethod
  rw [Consumer.signature, hsame]
  exact Signer.sign_sameResult hrefl (BaseString.make_sameResult hurl hparams)

/-- **Signing with a digest succeeds** for a consumer with credentials and a URL with a normal
form. -/
theorem exists_sign {c : Consumer} {r : PlainRequest} (hcredentials : c.hasCredentials = true)
    (hmethod : c.method = .hmacSha1) (hurl : (BaseString.normalizeUrl (strip r).url).isOk = true)
    (stamp : Stamp) : ∃ written r', c.sign stamp r = (.ok written, r') := by
  cases hnormal : BaseString.normalizeUrl (strip r).url with
  | error fault =>
    rw [hnormal] at hurl
    cases hurl
  | ok normal =>
    have hmake : ∃ base, BaseString.make (Request.method (strip r)) (strip r).url
        (c.signedParams stamp (strip r)) = .ok base :=
      ⟨_, BaseString.make_eq_ok.2 ⟨normal, hnormal, rfl⟩⟩
    obtain ⟨base, hbase⟩ := hmake
    have hdigest : c.signer.method = .hmacSha1 := hmethod
    obtain ⟨signature, hsigned⟩ := Signer.exists_signBase hdigest base
    have hne : c.signer.method ≠ .plaintext := by
      intro hplain
      cases hmethod.symm.trans hplain
    have hsignature : c.signature stamp (strip r) = .ok signature :=
      (Signer.sign_eq_ok_of_ne hne).2 ⟨base, hbase, hsigned⟩
    exact ⟨_, _, sign_eq_ok.2 ⟨hcredentials, signature, hsignature, rfl⟩⟩

end Consumer

end OAuth
