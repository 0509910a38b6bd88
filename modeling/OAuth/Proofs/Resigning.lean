import OAuth.Proofs.Repetition
import OAuth.Proofs.Replacement

/-!
# Signing a signed request

A consumer that settles the nonce and the time gives a signed request the same signature again. In
the header nothing changes at all (`Consumer.sign_again_header`). Behind a query the fields that
signing writes move to the end, and once they stand there nothing changes any more. Main statement:
`Consumer.sign_again`.
-/

namespace OAuth.Consumer

variable {c : Consumer} {stamp : Stamp} {r r' : PlainRequest} {written : Text}

/-! ## Into the header -/

/-- Requests with no elements in their header but those of the protocol and realms. -/
def HasOwnElements (r : PlainRequest) : Prop :=
  ∀ pair ∈ elements r, Key.isReserved pair.1 = true ∨ pair.1 = Key.realm

instance (r : PlainRequest) : Decidable (HasOwnElements r) :=
  inferInstanceAs (Decidable (∀ pair ∈ elements r, _))

theorem HasOwnElements.strip (h : HasOwnElements r) : HasOwnElements (strip r) := by
  rw [HasOwnElements, elements_strip]
  exact h

/-- Only realms are kept of the protocol's own elements. -/
theorem fst_of_mem_headerParams (hown : HasOwnElements r) {pair : Pair}
    (h : pair ∈ headerParams r) : pair.1 = Key.realm := by
  obtain ⟨hmem, hkept⟩ := mem_headerParams.1 h
  rcases hown pair hmem with hreserved | hrealm
  · simpa [isKeptElement, hreserved] using hkept
  · exact hrealm

/-- Below the other keys, what is collected does not come from the header. -/
theorem mem_collect_of_ne (hown : HasOwnElements r) {pair : Pair} (hne : pair.1 ≠ Key.realm) :
    pair ∈ c.collect r ↔ pair ∈ c.additional ∨ pair ∈ queryPairs r ∨ pair ∈ bodyPairs r := by
  have hheader : pair ∉ headerParams r := fun hmem => hne (fst_of_mem_headerParams hown hmem)
  rw [mem_collect, or_iff_right hheader]

section Header

variable {before after : PlainRequest} {signature : Text} {carried : List Text}

/-- Below the other keys, the same is signed where the query and the body are the same. -/
theorem mem_signedParams_of_ne (hpinned : c.IsPinned) (hbefore : HasOwnElements before)
    (hafter : HasOwnElements after) (hquery : queryPairs after = queryPairs before)
    (hbody : bodyPairs after = bodyPairs before) {pair : Pair} (hne : pair.1 ≠ Key.realm)
    (stamp stamp' : Stamp) :
    pair ∈ c.signedParams stamp' after ↔ pair ∈ c.signedParams stamp before := by
  refine mem_signedParams_congr hpinned (fun value => ?_) stamp' stamp
  have hne : (pair.1, value).1 ≠ Key.realm := hne
  rw [mem_collect_of_ne hafter hne, mem_collect_of_ne hbefore hne, hquery, hbody]

/-- The realms of a header that was written are not more than those that it was written for. -/
theorem mem_signedParams_of_headerPairs (hquery : queryPairs after = queryPairs before)
    (hbody : bodyPairs after = bodyPairs before)
    (helements : elements after =
      Placement.headerPairs signature (c.signedParams stamp before) carried)
    {realm : Text} {stamp' : Stamp} (h : (Key.realm, realm) ∈ c.signedParams stamp' after) :
    (Key.realm, realm) ∈ c.signedParams stamp before := by
  have hrealm : Key.realm ∉ protocolKeys := by decide
  rw [mem_signedParams_of_not_mem hrealm] at h
  obtain ⟨hne, hcollected⟩ := h
  have hmem : (Key.realm, realm) ∈ c.collect before →
      (Key.realm, realm) ∈ c.signedParams stamp before := fun hmem =>
    (mem_signedParams_of_not_mem hrealm).2 ⟨hne, hmem⟩
  rcases mem_collect.1 hcollected with hadd | hheader | hrest
  · exact hmem (mem_collect.2 (.inl hadd))
  · obtain ⟨helement, -⟩ := mem_headerParams.1 hheader
    rw [helements, Placement.mem_headerPairs] at helement
    rcases helement with ⟨hfirst, -⟩ | hsignature
    · exact Params.first?_mem hfirst
    · exact absurd (congrArg Prod.fst hsignature) hne
  · rw [hquery, hbody] at hrest
    exact hmem (mem_collect.2 (.inr (.inr hrest)))

/-- **The first values are the same again** when a header was written with them. -/
theorem first?_signedParams_again (hpinned : c.IsPinned) (hbefore : HasOwnElements before)
    (hquery : queryPairs after = queryPairs before) (hbody : bodyPairs after = bodyPairs before)
    (helements : elements after =
      Placement.headerPairs signature (c.signedParams stamp before) carried)
    (stamp' : Stamp) (key : Text) :
    (c.signedParams stamp' after).first? key = (c.signedParams stamp before).first? key := by
  have hafter : HasOwnElements after := fun pair hpair =>
    Placement.isReserved_of_mem_headerPairs (helements ▸ hpair)
  -- the realm alone is read from what was written: one value of those that there were, the first
  by_cases hkey : key = Key.realm
  · subst hkey
    have hsub : ∀ realm, (Key.realm, realm) ∈ c.signedParams stamp' after →
        (Key.realm, realm) ∈ c.signedParams stamp before := fun realm hmem =>
      mem_signedParams_of_headerPairs hquery hbody helements hmem
    cases hfirst : (c.signedParams stamp before).first? Key.realm with
    | none =>
      rw [Params.first?_eq_none] at hfirst ⊢
      exact fun realm hmem => hfirst realm (hsub realm hmem)
    | some realm =>
      have helement : (Key.realm, realm) ∈ elements after := by
        rw [helements, Placement.mem_headerPairs]
        exact .inl ⟨hfirst, .inl rfl⟩
      have hheader : (Key.realm, realm) ∈ headerParams after :=
        mem_headerParams.2 ⟨helement, rfl⟩
      have hsigned : Key.realm ∉ protocolKeys ∧ Key.realm ≠ Key.signature := by decide
      refine Params.first?_of_subset hfirst ?_ hsub
      rw [mem_signedParams_of_not_mem hsigned.1]
      exact ⟨hsigned.2, mem_collect.2 (.inr (.inl hheader))⟩
  · exact Params.first?_congr fun value =>
      mem_signedParams_of_ne hpinned hbefore hafter hquery hbody hkey stamp stamp'

end Header

/-- **A signature in the header stays as it is**, and so does the request. -/
theorem sign_again_header (hc : c.IsReadable) (hpinned : c.IsPinned) (hown : HasOwnElements r)
    (hrealm : HasPlainRealm r) (hplacement : c.placement = .header)
    (h : c.sign stamp r = (.ok written, r')) (stamp' : Stamp) :
    c.sign stamp' r' = (.ok written, r') := by
  obtain ⟨hcredentials, -⟩ := sign_eq_ok.1 h
  obtain ⟨signature, hsignature, hwritten, hr', helements⟩ :=
    elements_of_header hc hrealm hplacement h
  have hurl : r'.url = (strip r).url := by rw [hr']; rfl
  have hquery : queryPairs r' = queryPairs (strip r) := by rw [hr', queryPairs_withHeader]
  have hbody : bodyPairs r' = bodyPairs (strip r) := by rw [hr', bodyPairs_withHeader]
  have hstrip : strip r' = r' := by rw [hr', strip_withHeader]
  have hbefore : HasOwnElements (strip r) := hown.strip
  have hafter : HasOwnElements r' := fun pair hpair =>
    Placement.isReserved_of_mem_headerPairs (helements ▸ hpair)
  have hsigned : (c.signedParams stamp (strip r)).filter BaseString.isSigned =
      (c.signedParams stamp' r').filter BaseString.isSigned := by
    refine Params.ext fun pair => ?_
    rw [Params.mem_filter, Params.mem_filter]
    refine and_congr_left fun hkey => ?_
    have hne : pair.1 ≠ Key.realm := by
      rintro hrealm
      rw [hrealm] at hkey
      revert hkey
      decide
    exact (mem_signedParams_of_ne hpinned hbefore hafter hquery hbody hne stamp stamp').symm
  have hagain : c.signature stamp' r' = .ok signature :=
    signature_congr (by rw [hr']; rfl) (fun normal hnormal => hurl ▸ hnormal) hsigned hsignature
  have hvalue : Placement.headerValue signature (c.signedParams stamp' r')
      (Placement.carriedKeys r'.url) = written := by
    rw [hwritten, hurl]
    exact Placement.headerValue_congr
      (first?_signedParams_again hpinned hbefore hquery hbody helements stamp')
  have hwrite : Request.withHeader r' authorizationHeader written = r' := by
    rw [hr', PlainRequest.withHeader_withHeader]
  refine sign_eq_ok.2 ⟨hcredentials, signature, ?_, ?_⟩
  · rw [hstrip]
    exact hagain
  · rw [hstrip, hplacement]
    refine Prod.ext hvalue ?_
    exact (congrArg (Request.withHeader r' authorizationHeader) hvalue).trans hwrite

/-! ## Behind the query -/

section Query

variable {signature : Text}

/-- What is kept of what was put behind a query was collected from the request before. -/
theorem mem_collect_of_mem_queryPairs {carried : List Text} {pair : Pair}
    (h : pair ∈ Placement.queryPairs signature (c.signedParams stamp r) carried)
    (hkey : Key.isGenerated pair.1 = false) : pair ∈ c.collect r := by
  rw [Placement.mem_queryPairs fun key hkey => contains_signedParams hkey] at h
  rcases h with ⟨hsigned, -, -⟩ | rfl
  · have hnot : pair.1 ∉ protocolKeys := by
      intro hmem
      rw [Key.isGenerated_iff.2 (mem_generated_of_mem_protocolKeys hmem)] at hkey
      cases hkey
    exact ((mem_signedParams_of_not_mem hnot).1 hsigned).2
  · have hsignature : Key.isGenerated Key.signature = true :=
      Key.isGenerated_iff.2 List.mem_cons_self
    cases hsignature.symm.trans hkey

/-- **The same is collected** when a request is signed behind its query and taken off again. -/
theorem mem_collect_strip_signBehind (hadd : c.additional.IsReadable) {pair : Pair} :
    pair ∈ c.collect (strip (signBehind r signature (c.signedParams stamp (strip r)))) ↔
      pair ∈ c.collect (strip r) := by
  have hheader : headerParams (strip (signBehind r signature (c.signedParams stamp (strip r)))) =
      headerParams (strip r) := by
    rw [headerParams_strip, headerParams_signBehind, headerParams_strip]
  have hbody : bodyPairs (strip (signBehind r signature (c.signedParams stamp (strip r)))) =
      bodyPairs (strip r) := by
    rw [bodyPairs_strip, bodyPairs_signBehind, bodyPairs_strip]
  rw [mem_collect, hheader, hbody, queryPairs_strip_signBehind (isReadable_signedParams hadd),
    List.mem_append, List.mem_filter]
  constructor
  · rintro (hmem | hmem | (hmem | ⟨hmem, hkey⟩) | hmem)
    · exact mem_collect.2 (.inl hmem)
    · exact mem_collect.2 (.inr (.inl hmem))
    · exact mem_collect.2 (.inr (.inr (.inl hmem)))
    · exact mem_collect_of_mem_queryPairs hmem (by simpa using hkey)
    · exact mem_collect.2 (.inr (.inr (.inr hmem)))
  · intro hmem
    rcases mem_collect.1 hmem with hmem | hmem | hmem | hmem
    · exact .inl hmem
    · exact .inr (.inl hmem)
    · exact .inr (.inr (.inl (.inl hmem)))
    · exact .inr (.inr (.inr hmem))

/-- The same is signed, with the same signature. -/
theorem signedParams_strip_signBehind (hadd : c.additional.IsReadable) (hpinned : c.IsPinned)
    (r : PlainRequest) (signature : Text) (stamp stamp' : Stamp) :
    c.signedParams stamp' (strip (signBehind r signature (c.signedParams stamp (strip r)))) =
      c.signedParams stamp (strip r) :=
  Params.ext fun _ => mem_signedParams_congr hpinned
    (fun _ => mem_collect_strip_signBehind hadd) stamp' stamp

/-- **A request that is signed behind its query is signed again**, with the same signature. -/
theorem sign_signBehind (hadd : c.additional.IsReadable) (hpinned : c.IsPinned)
    (htidy : Url.IsTidy r.url) (hplacement : c.placement = .query)
    (hcredentials : c.hasCredentials = true)
    (hsignature : c.signature stamp (strip r) = .ok signature) (stamp' : Stamp) :
    let once := signBehind r signature (c.signedParams stamp (strip r))
    let twice := signBehind once signature (c.signedParams stamp (strip r))
    c.signature stamp' (strip once) = .ok signature ∧
      c.sign stamp' once = (.ok twice.url, twice) := by
  intro once twice
  have hreadable : (c.signedParams stamp (strip r)).IsReadable := isReadable_signedParams hadd
  -- a callback or verifier that was written is collected again, now from the query
  have hsame : c.signedParams stamp' (strip once) = c.signedParams stamp (strip r) :=
    signedParams_strip_signBehind hadd hpinned r signature stamp stamp'
  have htidy' : Url.IsTidy (strip r).url := by
    rw [strip_eq]
    exact isTidy_stripUrl htidy
  have hurl : ∀ normal, BaseString.normalizeUrl (strip r).url = .ok normal →
      BaseString.normalizeUrl (strip once).url = .ok normal := by
    intro normal hnormal
    have honce : (strip once).url = stripUrl once.url := by rw [strip_eq]
    have hbase : (Reference.ofText (strip r).url).base =
        (Reference.ofText (stripUrl once.url)).base := by
      rw [base_stripUrl, base_signBehind hreadable, strip_eq, base_stripUrl]
    rw [honce]
    refine BaseString.normalizeUrl_of_ofText htidy' ?_ hbase hnormal
    exact isTidy_stripUrl (isTidy_signBehind hreadable htidy signature)
  have hmethod : (strip once).method = (strip r).method := by
    rw [strip_eq]
    rfl
  have hagain : c.signature stamp' (strip once) = .ok signature :=
    signature_congr hmethod hurl (by rw [hsame]) hsignature
  refine ⟨hagain, sign_eq_ok.2 ⟨hcredentials, signature, hagain, ?_⟩⟩
  rw [hplacement, hsame]
  rfl

end Query

/-- **Signing again is stable.** A header stays as it is; behind a query the same fields stand in
another order, and then stay as they are. -/
theorem sign_again (hadd : c.additional.IsWritten) (hpinned : c.IsPinned)
    (htidy : Url.IsTidy r.url) (hown : HasOwnElements r) (hrealm : HasPlainRealm r)
    (h : c.sign stamp r = (.ok written, r')) (stamp₂ stamp₃ : Stamp) :
    (c.placement = .header → c.sign stamp₂ r' = (.ok written, r')) ∧
      (c.placement = .query → ∃ signature url₂ r₂, c.sign stamp₂ r' = (.ok url₂, r₂) ∧
        signaturesOf (queryPairs r') = [Percent.encode signature] ∧
        signaturesOf (queryPairs r₂) = [Percent.encode signature] ∧
        (Reference.ofText url₂).base = (Reference.ofText written).base ∧
        (Reference.ofText url₂).fragment = (Reference.ofText written).fragment ∧
        (queryFields r₂).Perm (queryFields r') ∧ c.sign stamp₃ r₂ = (.ok url₂, r₂)) := by
  have hc := isReadable_of_isWritten hadd
  refine ⟨fun hplacement => ?_, fun hplacement => ?_⟩
  · exact sign_again_header hc hpinned hown hrealm hplacement h stamp₂
  · obtain ⟨hcredentials, -⟩ := sign_eq_ok.1 h
    obtain ⟨signature, hsignature, rfl, rfl⟩ := sign_query hplacement h
    have hreadable : (c.signedParams stamp (strip r)).IsReadable :=
      isReadable_signedParams hc.additional
    obtain ⟨hsignature₂, hsign₂⟩ := sign_signBehind hc.additional hpinned htidy hplacement
      hcredentials hsignature stamp₂
    have htidy' := isTidy_signBehind hreadable htidy signature
    obtain ⟨-, hsign₃⟩ := sign_signBehind hc.additional hpinned htidy' hplacement hcredentials
      hsignature₂ stamp₃
    rw [signedParams_strip_signBehind hc.additional hpinned, signBehind_again hreadable] at hsign₃
    -- the third signing is the second one, of the same request once more
    refine ⟨signature, _, _, hsign₂, ?_, ?_, ?_, ?_, ?_, hsign₃⟩
    · exact signaturesOf_signBehind hreadable r signature
    · exact signaturesOf_signBehind hreadable _ signature
    · exact base_signBehind hreadable _ signature
    · exact fragment_signBehind hreadable _ signature
    · rw [queryFields_again hreadable]
      refine List.perm_append_comm.trans ?_
      exact List.filter_append_perm _ _

/-- A consumer that settles the nonce and the time. -/
def pinned (placement : Placement) : Consumer :=
  { key := "ck".toList
    secret := "cs".toList
    placement
    additional := .ofList [(Key.nonce, "n".toList), (Key.timestamp, "1".toList)] }

/-- A request with fields, an old token and a fragment, signed once. -/
def signedOnce (placement : Placement) : Except Error Text × PlainRequest :=
  (pinned placement).sign ⟨"a".toList, "2".toList⟩ (.get "x://h/?a=1&&oauth_token=t#f".toList)

/-- The request signed again. -/
def signedAgain (placement : Placement) : Except Error Text × PlainRequest :=
  (pinned placement).sign ⟨"b".toList, "3".toList⟩ (signedOnce placement).2

theorem sign_again_pinned : signedAgain .header = signedOnce .header ∧
    (pinned .query).sign ⟨"c".toList, "4".toList⟩ (signedAgain .query).2 = signedAgain .query := by
  have hpinned : ∀ placement, (pinned placement).IsPinned := fun placement =>
    ⟨by cases placement <;> decide, by cases placement <;> decide⟩
  have hadd : ∀ placement, (pinned placement).additional.IsWritten := by
    intro placement
    cases placement <;> decide +kernel
  have hurl : (BaseString.normalizeUrl
      (strip (PlainRequest.get "x://h/?a=1&&oauth_token=t#f".toList)).url).isOk = true := by
    decide +kernel
  have hcredentials : ∀ placement, (pinned placement).hasCredentials = true := fun placement => by
    cases placement <;> decide
  have hsigned : ∀ placement, ∃ written r', signedOnce placement = (.ok written, r') :=
    fun placement => exists_sign (hcredentials placement) rfl hurl _
  constructor
  · obtain ⟨written, r', h⟩ := hsigned .header
    have hagain := (sign_again (hadd .header) (hpinned .header) (by decide) (by decide) (by decide)
      h ⟨"b".toList, "3".toList⟩ ⟨"c".toList, "4".toList⟩).1 rfl
    rw [signedAgain, h]
    exact hagain
  · obtain ⟨written, r', h⟩ := hsigned .query
    obtain ⟨signature, url₂, r₂, hagain, -, -, -, -, -, hthird⟩ := (sign_again (hadd .query)
      (hpinned .query) (by decide) (by decide) (by decide) h ⟨"b".toList, "3".toList⟩
      ⟨"c".toList, "4".toList⟩).2 rfl
    rw [signedAgain, h, hagain]
    exact hthird

end OAuth.Consumer
