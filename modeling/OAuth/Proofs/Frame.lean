import OAuth.Proofs.Signing

/-!
# What signing leaves alone

A signing changes one thing of a request beside its URL, and one that fails leaves the URL without
what an earlier signing wrote there, or leaves all as it was. Main statement: `Consumer.sign_frame`,
which errors there are, when each of them arises, and what the request is afterwards.
-/

namespace OAuth

/-- The headers but for those of a name. -/
def HeaderList.without (headers : HeaderList) (name : Text) : HeaderList :=
  headers.filter fun header => !Text.sameLetters header.1 name

/-- **Setting a header leaves the others as they are**, in their places. -/
theorem HeaderList.without_set (headers : HeaderList) (name value : Text) :
    (headers.set name value).without name = headers.without name := by
  induction headers with
  | nil => simp [set, without, Text.sameLetters]
  | cons header rest ih =>
    obtain ⟨key, old⟩ := header
    unfold without at ih
    by_cases h : Text.sameLetters key name = true
    · simp [set, without, h]
    · simp [set, without, h, ih]

/-! ## Faults -/

namespace Signer

/-- Whether a private key is at fault for a base string: it cannot be read, or does not sign. -/
def IsKeyFault (secret base : Text) (fault : SigningFault) : Prop :=
  (∃ why, Rsa.PrivateKey.ofSecret secret = .error why ∧ fault = .unusableSecret why) ∨
    ∃ key why, Rsa.PrivateKey.ofSecret secret = .ok key ∧
      key.sign (Utf8.encode base) = .error why ∧ fault = .rsa why

theorem rsa_eq_error {secret base : Text} {fault : SigningFault} :
    rsa secret base = .error fault ↔ IsKeyFault secret base fault := by
  unfold rsa IsKeyFault
  cases Rsa.PrivateKey.ofSecret secret with
  | error why => simp [eq_comm]
  | ok key => cases hsign : key.sign (Utf8.encode base) <;> simp [hsign, eq_comm]

/-- Whether something is at fault where a signature of a request is wanted: the secrets themselves
always make one; a digest makes one of every base string; and a private key may be at fault where
there is a base string. -/
def IsFault (signer : Signer) (method url : Text) (params : Params) (fault : SigningFault) : Prop :=
  match signer.method with
  | .plaintext => False
  | .hmacSha1 => BaseString.normalizeUrl url = .error fault
  | .rsaSha1 =>
    BaseString.normalizeUrl url = .error fault ∨
      ∃ normal, BaseString.normalizeUrl url = .ok normal ∧
        IsKeyFault signer.consumerSecret
          (BaseString.join method normal (BaseString.paramsText params)) fault

/-- **What is at fault where no signature is made.** -/
theorem sign_eq_error {signer : Signer} {method url : Text} {params : Params}
    {fault : SigningFault} :
    signer.sign method url params = .error fault ↔ signer.IsFault method url params fault := by
  unfold IsFault
  cases hmethod : signer.method with
  | plaintext => simp [sign, hmethod]
  | hmacSha1 =>
    have hne : signer.method ≠ .plaintext := by simp [hmethod]
    rw [sign_of_ne hne, BaseString.make]
    cases BaseString.normalizeUrl url with
    | error why => simp [Except.map, Except.bind]
    | ok normal =>
      obtain ⟨signature, hsigned⟩ := exists_signBase hmethod
        (BaseString.join method normal (BaseString.paramsText params))
      simp [Except.map, Except.bind, hsigned]
  | rsaSha1 =>
    have hne : signer.method ≠ .plaintext := by simp [hmethod]
    have hkey : ∀ base, signer.signBase base = rsa signer.consumerSecret base := by
      intro base
      rw [signBase, hmethod]
    rw [sign_of_ne hne, BaseString.make]
    cases BaseString.normalizeUrl url with
    | error why => simp [Except.map, Except.bind]
    | ok normal => simp [Except.map, Except.bind, hkey, rsa_eq_error]

end Signer

namespace Consumer

variable {c : Consumer} {stamp : Stamp} {r r' : PlainRequest} {written : Text}

/-! ## Frames -/

/-- What a signing leaves alone of a request, and what it changes. -/
structure IsFramed (c : Consumer) (stamp : Stamp) (r : PlainRequest) (written : Text)
    (r' : PlainRequest) : Prop where
  /-- the method is the same -/
  method : r'.method = r.method
  /-- the body is the same -/
  body : r'.body = r.body
  /-- the other headers are the same, in their order -/
  headers : r'.headers.without authorizationHeader = r.headers.without authorizationHeader
  /-- in the header, the text that is written is its value -/
  header : c.placement = .header → r'.url = stripUrl r.url ∧
    r'.headers.find? authorizationHeader = some written
  /-- behind the query, no header is changed; the text that is written is the URL with the
  signature and what is sent with it before the fragment -/
  query : c.placement = .query → r'.headers = r.headers ∧ r'.url = written ∧
    ∃ signature, c.signature stamp (strip r) = .ok signature ∧
      Reference.IsAppended (stripUrl r.url) (Text.join ['&'] ((Placement.queryPairs signature
        (c.signedParams stamp (strip r)) (Placement.carriedKeys (stripUrl r.url))).map
          Pair.queryText)) written

/-- A text from which an earlier signing is taken off has no earlier signature in it. -/
theorem bareUrl_stripUrl (url : Text) : Placement.bareUrl (stripUrl url) = stripUrl url := by
  refine Placement.bareUrl_eq_self ?_
  rw [Placement.mem_carriedKeys Key.isKey_signature]
  intro hmem
  exact not_mem_generated hmem (by decide)

/-- **A signature is put before the fragment** of a text from which an earlier signing is taken
off. -/
theorem isAppended_signedUrl (url signature : Text) (params : Params) :
    Reference.IsAppended (stripUrl url) (Text.join ['&'] ((Placement.queryPairs signature params
      (Placement.carriedKeys (stripUrl url))).map Pair.queryText))
        (Placement.signedUrl (stripUrl url) signature params) := by
  rw [Placement.signedUrl_eq, bareUrl_stripUrl]
  exact Reference.isAppended_append _ _

/-- **A signing that succeeds leaves alone what it should.** -/
theorem isFramed_of_sign (h : c.sign stamp r = (.ok written, r')) :
    c.IsFramed stamp r written r' := by
  cases hplacement : c.placement with
  | header =>
    obtain ⟨signature, -, -, rfl⟩ := sign_header hplacement h
    rw [strip_eq]
    refine ⟨rfl, rfl, HeaderList.without_set _ _ _, fun _ => ⟨rfl, HeaderList.find?_set _ _ _⟩, ?_⟩
    intro hquery
    cases hplacement.symm.trans hquery
  | query =>
    obtain ⟨signature, hsignature, rfl, rfl⟩ := sign_query hplacement h
    rw [signBehind, strip_eq]
    refine ⟨rfl, rfl, rfl, ?_, fun _ => ⟨rfl, rfl, signature, hsignature, ?_⟩⟩
    · intro hheader
      cases hplacement.symm.trans hheader
    · rw [strip_eq]
      exact isAppended_signedUrl r.url signature _

/-- **What signing leaves alone.** Without credentials a signing fails and changes nothing. With
them it fails exactly where no signature is made of what is left of the request once an earlier
signing is taken off the URL, which is then all that is changed; and one that succeeds changes the
header or the URL only. -/
theorem sign_frame (c : Consumer) (stamp : Stamp) (r : PlainRequest) :
    (∀ error r', c.sign stamp r = (.error error, r') ↔
      (c.key = [] ∨ c.secret = []) ∧ error = .credentialsMissing ∧ r' = r ∨
        ¬(c.key = [] ∨ c.secret = []) ∧ ∃ fault,
          c.signer.IsFault r.method (stripUrl r.url) (c.signedParams stamp (strip r)) fault ∧
            error = .signing fault ∧ r' = { r with url := stripUrl r.url }) ∧
      ∀ written r', c.sign stamp r = (.ok written, r') → c.IsFramed stamp r written r' := by
  have hcredentials : c.hasCredentials = false ↔ c.key = [] ∨ c.secret = [] := by
    simp [hasCredentials, ← Bool.not_eq_true, imp_iff_not_or]
  have hsignature : ∀ fault, c.signature stamp (strip r) = .error fault ↔
      c.signer.IsFault r.method (stripUrl r.url) (c.signedParams stamp (strip r)) fault := by
    intro fault
    rw [← Signer.sign_eq_error, Consumer.signature, strip_eq]
    rfl
  refine ⟨fun error r' => ?_, fun written r' h => isFramed_of_sign h⟩
  rw [sign_eq_error, ← hcredentials, Bool.not_eq_false, ← strip_eq r]
  simp only [hsignature]

/-- A request with what an earlier signing wrote, before a fragment. -/
def fragmentRequest : PlainRequest := .get "x://h/?oauth_nonce=m&a=1#f".toList

/-- A consumer that signs behind the query. -/
def querySigner (method : SignatureMethod) : Consumer :=
  { key := "ck".toList, secret := "cs".toList, method, placement := .query }

/-- With the secrets themselves the request is signed before its fragment; as a private key the
secret is at fault, and only the nonce is taken off. -/
theorem sign_frame_fragment :
    let stamp : Stamp := ⟨"n".toList, "1".toList⟩
    let signed := ("x://h/?a=1&oauth_signature=cs%26&oauth_consumer_key=ck&oauth_version=1.0" ++
      "&oauth_signature_method=PLAINTEXT&oauth_timestamp=1&oauth_nonce=n#f").toList
    (querySigner .plaintext).IsFramed stamp fragmentRequest signed (.get signed) ∧
      (querySigner .rsaSha1).sign stamp fragmentRequest =
        (.error (.signing (.unusableSecret (.base64 .padding))),
          .get "x://h/?a=1#f".toList) := by
  intro stamp signed
  constructor
  · exact (sign_frame _ stamp fragmentRequest).2 signed _ (by decide +kernel)
  · refine ((sign_frame _ stamp fragmentRequest).1 _ _).2
      (.inr ⟨by decide, _, .inr ⟨"x://h/".toList, ?_, .inl ⟨_, ?_, rfl⟩⟩, rfl, ?_⟩)
    · decide +kernel
    · decide +kernel
    · decide +kernel

end Consumer

end OAuth
