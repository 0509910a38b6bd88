import OAuth.Proofs.Resigning

/-!
# What a signature does not depend on

What an earlier signing may have left on a request takes no part in the next one: the fields of the
query that it wrote, and in the header the elements of the protocol. Nor does the realm take part.
Main statement: `Consumer.sign_of_isAlike`, two requests that are alike but for that get the same
signature, or none for faults of one kind.
-/

namespace OAuth.Consumer

/-- Requests that are alike but for what an earlier signing may have left on them. -/
structure IsAlike (r r' : PlainRequest) : Prop where
  /-- the methods are the same -/
  method : r.method = r'.method
  /-- the URLs are the same without the fields that a signing may write -/
  url : Reference.removeKeys r.url Key.generated = Reference.removeKeys r'.url Key.generated
  /-- the elements of the headers are the same, but for realms and those of the protocol -/
  elements : ∀ pair : Pair, pair.1 ≠ Key.realm → Key.isReserved pair.1 = false →
    (pair ∈ elements r ↔ pair ∈ elements r')
  /-- the media types of the bodies are the same -/
  contentType : Request.contentType? r = Request.contentType? r'
  /-- the bodies are the same -/
  body : r.body = r'.body

/-- Requests with the same realms in their headers. -/
def HasSameRealms (r r' : PlainRequest) : Prop :=
  ∀ realm, (Key.realm, realm) ∈ elements r ↔ (Key.realm, realm) ∈ elements r'

variable {c : Consumer} {r r' : PlainRequest}

/-! ## Places -/

/-- What is left of a URL has the fields that are left when all that may be written is removed,
though its text may have empty segments. -/
theorem fields_stripUrl_eq (url : Text) : (Reference.ofText (stripUrl url)).fields =
    (Reference.ofText (Reference.removeKeys url Key.generated)).fields := by
  rw [fields_stripUrl, Reference.ofText_removeKeys, Reference.fields_withoutKeys]
  rfl

theorem IsAlike.queryFields (h : IsAlike r r') :
    queryFields (strip r) = Consumer.queryFields (strip r') := by
  rw [strip_eq, strip_eq]
  change (Reference.ofText (stripUrl r.url)).fields = (Reference.ofText (stripUrl r'.url)).fields
  rw [fields_stripUrl_eq, h.url, fields_stripUrl_eq]

theorem IsAlike.base (h : IsAlike r r') :
    (Reference.ofText r.url).base = (Reference.ofText r'.url).base := by
  have hbase := congrArg (fun url => (Reference.ofText url).base) h.url
  simpa only [Reference.ofText_removeKeys, Reference.base_withoutKeys] using hbase

theorem IsAlike.bodyPairs (h : IsAlike r r') : bodyPairs r = Consumer.bodyPairs r' := by
  have hform : Request.hasForm r = Request.hasForm r' := by
    rw [Request.hasForm, h.contentType, Request.hasForm]
  have hpayload : Request.payload? r = Request.payload? r' := h.body
  unfold Consumer.bodyPairs bodyFields
  rw [hform, hpayload]

theorem IsAlike.carriedKeys (h : IsAlike r r') :
    Placement.carriedKeys (strip r).url = Placement.carriedKeys (strip r').url := by
  rw [carriedKeys_url, carriedKeys_url, queryPairs, h.queryFields, queryPairs]

/-- The same is collected, but for realms. -/
theorem IsAlike.mem_collect (h : IsAlike r r') {pair : Pair}
    (hrealm : pair.1 = Key.realm → HasSameRealms r r') :
    pair ∈ c.collect (strip r) ↔ pair ∈ c.collect (strip r') := by
  have hheader : pair ∈ headerParams (strip r) ↔ pair ∈ headerParams (strip r') := by
    rw [headerParams_strip, headerParams_strip, mem_headerParams, mem_headerParams]
    refine and_congr_left fun hkept => ?_
    by_cases hkey : pair.1 = Key.realm
    · obtain ⟨key, realm⟩ := pair
      obtain rfl : key = Key.realm := hkey
      exact hrealm rfl realm
    · refine h.elements pair hkey ?_
      simpa [isKeptElement, hkey] using hkept
  rw [Consumer.mem_collect, Consumer.mem_collect, hheader, queryPairs, h.queryFields, ← queryPairs,
    bodyPairs_strip, bodyPairs_strip, h.bodyPairs]

/-! ## What is signed -/

/-- Signings that are the same but for the request: at the same time with the same chance, or by a
consumer that settles both. -/
def IsFixed (c : Consumer) (stamp stamp' : Stamp) : Prop := stamp = stamp' ∨ c.IsPinned

variable {stamp stamp' : Stamp}

/-- **What is signed under a key depends on what was collected under it**, in signings that are the
same but for the request. -/
theorem IsFixed.mem_signedParams {s s' : PlainRequest} (hfixed : c.IsFixed stamp stamp')
    {pair : Pair} (hcollect : ∀ value, (pair.1, value) ∈ c.collect s ↔
      (pair.1, value) ∈ c.collect s') :
    pair ∈ c.signedParams stamp s ↔ pair ∈ c.signedParams stamp' s' := by
  rcases hfixed with rfl | hpinned
  · rw [Consumer.mem_signedParams, Consumer.mem_signedParams, Params.contains_congr hcollect]
    rw [hcollect pair.2]
  · exact mem_signedParams_congr hpinned hcollect stamp stamp'

/-- The same is signed, but for realms. -/
theorem IsAlike.mem_signedParams (h : IsAlike r r') (hfixed : c.IsFixed stamp stamp') {pair : Pair}
    (hrealm : pair.1 = Key.realm → HasSameRealms r r') :
    pair ∈ c.signedParams stamp (strip r) ↔ pair ∈ c.signedParams stamp' (strip r') :=
  hfixed.mem_signedParams fun _ => h.mem_collect hrealm

/-- **The normal forms of the URLs are the same**, or there is none for faults that are alike. -/
theorem IsAlike.normalizeUrl (h : IsAlike r r') (htidy : Url.IsTidy r.url)
    (htidy' : Url.IsTidy r'.url) :
    SameResult (SigningFault.IsSameKindOrNobody (Reference.ofText r.url).base)
      (BaseString.normalizeUrl (strip r).url) (BaseString.normalizeUrl (strip r').url) := by
  have hbase : (Reference.ofText (strip r).url).base = (Reference.ofText r.url).base := by
    rw [strip_eq, base_stripUrl]
  have hbase' : (Reference.ofText (strip r').url).base = (Reference.ofText r.url).base := by
    rw [strip_eq, base_stripUrl, h.base]
  rw [← hbase]
  refine BaseString.normalizeUrl_sameResult ?_ ?_ (hbase.trans hbase'.symm)
  · rw [strip_eq]
    exact isTidy_stripUrl htidy
  · rw [strip_eq]
    exact isTidy_stripUrl htidy'

/-- **The same signature is made**, or none for faults that are related as those of the URLs. -/
theorem IsAlike.signature (h : IsAlike r r') (hfixed : c.IsFixed stamp stamp')
    {R : SigningFault → SigningFault → Prop} (hrefl : ∀ fault, R fault fault)
    (hurl : SameResult R (BaseString.normalizeUrl (strip r).url)
      (BaseString.normalizeUrl (strip r').url)) :
    SameResult R (c.signature stamp (strip r)) (c.signature stamp' (strip r')) := by
  have hmethod : (strip r).method = (strip r').method := by
    rw [strip_eq, strip_eq]
    exact h.method
  refine signature_sameResult hrefl hmethod hurl ?_
  refine BaseString.filter_isSigned_eq_iff.2 fun pair _ hne => ?_
  exact h.mem_signedParams hfixed fun hrealm => absurd hrealm hne

/-! ## Signing -/

/-- **What an earlier signing left does not count**: requests that are alike but for that are signed
with the same signature, and with the same header where their realms are the same. Or neither is
signed, for faults of one kind if their URLs have the same normal form or none for faults of one
kind, as all do but those that name nobody. -/
theorem sign_of_isAlike (h : IsAlike r r') (htidy : Url.IsTidy r.url) (htidy' : Url.IsTidy r'.url)
    (hfixed : c.IsFixed stamp stamp') :
    (∀ written s, c.sign stamp r = (.ok written, s) → ∃ signature written' s',
      c.sign stamp' r' = (.ok written', s') ∧
        c.signature stamp (strip r) = .ok signature ∧
        c.signature stamp' (strip r') = .ok signature ∧
        (c.placement = .header → HasSameRealms r r' → written' = written)) ∧
      ∀ error s, c.sign stamp r = (.error error, s) → ∃ error' s',
        c.sign stamp' r' = (.error error', s') ∧
          (error = .credentialsMissing ∧ error' = .credentialsMissing ∨ ∃ fault fault',
            error = .signing fault ∧ error' = .signing fault' ∧
              fault.IsSameKindOrNobody (Reference.ofText r.url).base fault' ∧
              (SameResult SigningFault.IsSameKind (BaseString.normalizeUrl (strip r).url)
                (BaseString.normalizeUrl (strip r').url) → fault.IsSameKind fault')) := by
  have hsame := h.signature hfixed (SigningFault.IsSameKindOrNobody.refl _)
    (h.normalizeUrl htidy htidy')
  constructor
  · intro written s hsign
    obtain ⟨hcredentials, signature, hsignature, hwrite⟩ := sign_eq_ok.1 hsign
    rw [hsignature] at hsame
    have hsignature' := hsame.eq_ok
    refine ⟨signature, _, _, sign_eq_ok.2 ⟨hcredentials, signature, hsignature', rfl⟩, hsignature,
      hsignature', fun hplacement hrealms => ?_⟩
    have hparams : c.signedParams stamp' (strip r') = c.signedParams stamp (strip r) :=
      Params.ext fun pair => (h.mem_signedParams hfixed fun _ => hrealms).symm
    rw [hplacement] at hwrite ⊢
    rw [hparams]
    have hvalue : Placement.headerValue signature (c.signedParams stamp (strip r))
        (Placement.carriedKeys (strip r).url) = written := congrArg Prod.fst hwrite
    rw [h.carriedKeys] at hvalue
    exact hvalue
  · intro error s hsign
    rcases sign_eq_error.1 hsign with ⟨hnone, rfl, -⟩ | ⟨hcredentials, fault, hfault, rfl, -⟩
    · exact ⟨_, _, sign_eq_error.2 (.inl ⟨hnone, rfl, rfl⟩), .inl ⟨rfl, rfl⟩⟩
    · rw [hfault] at hsame
      obtain ⟨fault', hfault', hsame⟩ := hsame.eq_error
      refine ⟨_, _, sign_eq_error.2 (.inr ⟨hcredentials, fault', hfault', rfl, rfl⟩),
        .inr ⟨fault, fault', rfl, rfl, hsame, fun hurl => ?_⟩⟩
      -- the same signings once more, now compared by the kinds of their faults
      have hkind := h.signature hfixed SigningFault.IsSameKind.refl hurl
      rw [hfault] at hkind
      obtain ⟨other, hother, hkind⟩ := hkind.eq_error
      obtain rfl : fault' = other := Except.error.inj (hfault'.symm.trans hother)
      exact hkind

/-- A request that was signed before, behind its query and in its header. -/
def usedRequest : PlainRequest :=
  Request.withHeader (PlainRequest.get "x://h/?oauth%5Fnonce=o&a=1&oauth_token".toList)
    authorizationHeader "OAuth realm=\"q\", oauth_signature=\"s\", b=\"2\"".toList

/-- The same request before it was signed. -/
def unusedRequest : PlainRequest :=
  Request.withHeader (PlainRequest.get "x://h/?a=1".toList) authorizationHeader
    "oauth b=2,realm=q".toList

theorem sign_of_isAlike_used : ∃ written s s',
    (pinned .header).sign ⟨"a".toList, "2".toList⟩ usedRequest = (.ok written, s) ∧
      (pinned .header).sign ⟨"b".toList, "3".toList⟩ unusedRequest = (.ok written, s') := by
  have hread : elements usedRequest = [(Key.realm, "q".toList), (Key.signature, "s".toList),
      ("b".toList, "2".toList)] := by decide +kernel
  have hread' : elements unusedRequest = [("b".toList, "2".toList), (Key.realm, "q".toList)] := by
    decide +kernel
  have halike : IsAlike usedRequest unusedRequest :=
    { method := by decide +kernel
      url := by decide +kernel
      elements := by
        intro pair hrealm hreserved
        have hne : pair ≠ (Key.realm, "q".toList) := fun heq => hrealm (congrArg Prod.fst heq)
        have hne' : pair ≠ (Key.signature, "s".toList) := by
          rintro rfl
          revert hreserved
          decide
        rw [hread, hread']
        simp only [List.mem_cons, List.not_mem_nil, or_false, hne, hne', false_or]
      contentType := by decide +kernel
      body := by decide +kernel }
  have hrealms : HasSameRealms usedRequest unusedRequest := by
    have hne : Key.realm ≠ Key.signature := by decide
    have hne' : Key.realm ≠ "b".toList := by decide
    intro realm
    rw [hread, hread']
    simp only [List.mem_cons, List.not_mem_nil, Prod.mk.injEq, hne, hne', false_and, or_false,
      false_or]
  have hfixed : (pinned .header).IsFixed ⟨"a".toList, "2".toList⟩ ⟨"b".toList, "3".toList⟩ :=
    .inr ⟨by decide, by decide⟩
  have hurl : (BaseString.normalizeUrl (strip usedRequest).url).isOk = true := by decide +kernel
  obtain ⟨written, s, hsign⟩ := exists_sign (c := pinned .header) (by decide) rfl hurl
    ⟨"a".toList, "2".toList⟩
  obtain ⟨signature, written', s', hsign', -, -, hwritten⟩ :=
    (sign_of_isAlike halike (by decide) (by decide) hfixed).1 written s hsign
  obtain rfl : written' = written := hwritten rfl hrealms
  exact ⟨written', s, s', hsign, hsign'⟩

/-- Of a URL that names nobody there is no normal form, and it counts whether a query follows: an
empty query stays, and one of an earlier signing goes. -/
example : BaseString.normalizeUrl (stripUrl "x://@?".toList) = .error (.malformedUrl .emptyHost) ∧
    BaseString.normalizeUrl (stripUrl "x://@?oauth_nonce=o".toList) =
      .error (.missingAuthority "x://@".toList) := by
  decide +kernel

end OAuth.Consumer
