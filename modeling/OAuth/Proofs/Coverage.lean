import OAuth.Proofs.Verification

/-!
# What is signed and sent

A signature covers more than is written beside it: the consumer may have parameters that are signed
for every request and are not of the protocol, and of several values of a key a header has the
first one only. Main statements: `Consumer.sent_of_signed`, all that is signed is sent but for
parameters of the consumer or of an old header that are not chosen for writing, and
`Consumer.not_mem_received`, such parameters are not sent.
-/

namespace OAuth

namespace Consumer

variable {c : Consumer} {stamp : Stamp} {r r' : PlainRequest} {written : Text} {pair : Pair}

/-- Whether a placement writes a pair of some parameters: its key is mandatory, or optional and
lacks in the URL, and for a header it is the first of its key. -/
def IsChosen (placement : Placement) (params : Params) (carried : List Text) (pair : Pair) : Prop :=
  Placement.IsHeaderKey carried pair.1 ∧
    (placement = .header → params.first? pair.1 = some pair.2)

instance (placement : Placement) (params : Params) (carried : List Text) (pair : Pair) :
    Decidable (IsChosen placement params carried pair) := inferInstanceAs (Decidable (_ ∧ (_ → _)))

/-- Whether a placement leaves a pair on a request: it is in the query, when an earlier signing is
taken off, or in the body, or in a header that is not written over. -/
def IsKept (placement : Placement) (r : PlainRequest) (pair : Pair) : Prop :=
  pair ∈ queryPairs (strip r) ∨ pair ∈ bodyPairs r ∨ placement = .query ∧ pair ∈ elements r

instance (placement : Placement) (r : PlainRequest) (pair : Pair) :
    Decidable (IsKept placement r pair) := inferInstanceAs (Decidable (_ ∨ _ ∨ _ ∧ _))

/-- Requests whose realms have balanced quotes. -/
def HasBalancedRealm (r : PlainRequest) : Prop :=
  ∀ realm, (Key.realm, realm) ∈ elements r → Authorization.IsBalanced realm

/-- What completes the parameters is chosen. -/
theorem isChosen_of_not_collected (hpair : pair ∈ c.signedParams stamp (strip r))
    (hcollected : pair ∉ c.collect (strip r)) (placement : Placement) :
    IsChosen placement (c.signedParams stamp (strip r)) (Placement.carriedKeys (strip r).url)
      pair := by
  obtain ⟨hlacks, value, hvalue, rfl⟩ := (mem_signedParams.1 hpair).2.resolve_left hcollected
  refine ⟨?_, fun _ => first?_signedParams hpair hlacks⟩
  have hkey := (of_mem_protocolValues hvalue).1
  exact Placement.isHeaderKey_of_mem (mem_protocol_of_mem_protocolKeys hkey)
    (not_mem_carriedKeys_strip (mem_generated_of_mem_protocolKeys hkey) r)

/-- A signing into the header writes what is chosen. -/
theorem mem_elements_of_isChosen (hc : c.IsReadable) (hrealm : HasBalancedRealm r)
    (hplacement : c.placement = .header) (h : c.sign stamp r = (.ok written, r'))
    (hchosen : IsChosen .header (c.signedParams stamp (strip r))
      (Placement.carriedKeys (strip r).url) pair) : pair ∈ elements r' := by
  obtain ⟨signature, -, rfl, rfl⟩ := sign_header hplacement h
  have hbalanced : ∀ realm, (c.signedParams stamp (strip r)).first? Key.realm = some realm →
      Authorization.IsBalanced realm := by
    intro realm hfirst
    refine realm_of_mem_signedParams (P := Authorization.IsBalanced) (fun s hs => ?_) ?_ ?_
      (Params.first?_mem hfirst)
    · exact Authorization.isBalanced_of_not_mem (hs.not_mem (by decide))
    · intro realm hmem
      exact Authorization.isBalanced_of_not_mem (hc.realm realm hmem)
    · rw [elements_strip]
      exact hrealm
  have hread : ∃ front, Authorization.read? (Placement.headerValue signature
      (c.signedParams stamp (strip r)) (Placement.carriedKeys (strip r).url)) =
        some (front ++ Placement.protocolPairs signature (c.signedParams stamp (strip r))
          (Placement.carriedKeys (strip r).url)) :=
    Placement.read?_headerValue_of_isBalanced (isReadable_signedParams hc.additional) hbalanced
  obtain ⟨front, hread⟩ := hread
  rw [elements_withHeader, hread, Option.getD_some, List.mem_append]
  exact .inr (Placement.mem_protocolPairs.2 (.inl ⟨hchosen.2 rfl, hchosen.1⟩))

/-- A signing behind the query writes what is chosen. -/
theorem mem_queryPairs_of_isChosen (hc : c.IsReadable)
    (hplacement : c.placement = .query) (h : c.sign stamp r = (.ok written, r'))
    (hpair : pair ∈ c.signedParams stamp (strip r))
    (hchosen : IsChosen .query (c.signedParams stamp (strip r))
      (Placement.carriedKeys (strip r).url) pair) : pair ∈ queryPairs r' := by
  obtain ⟨signature, -, rfl, -⟩ := sign_query hplacement h
  have hlacks : pair.1 ∉ Placement.carriedKeys (strip r).url := by
    have all : ∀ key ∈ Key.mandatory, key ∈ Key.generated := by decide
    rcases hchosen.1 with ⟨-, hlacks⟩ | hmandatory
    · exact hlacks
    · exact not_mem_carriedKeys_strip (all _ hmandatory) r
  rw [queryPairs_signBehind (isReadable_signedParams hc.additional),
    List.mem_append, Placement.mem_queryPairs fun key hkey => contains_signedParams hkey]
  exact .inr (.inl ⟨hpair, hchosen.1.mem, hlacks⟩)

/-- What is kept is there after a signing. -/
theorem mem_received_of_isKept (hc : c.IsReadable) (h : c.sign stamp r = (.ok written, r'))
    (hkept : IsKept c.placement r pair) : pair ∈ received r' := by
  rw [mem_received]
  rcases hkept with hquery | hbody | ⟨hplacement, helement⟩
  · cases hplacement : c.placement with
    | header =>
      obtain ⟨signature, -, -, rfl⟩ := sign_header hplacement h
      rw [queryPairs_withHeader]
      exact .inr (.inl hquery)
    | query =>
      obtain ⟨signature, -, rfl, -⟩ := sign_query hplacement h
      rw [queryPairs_signBehind (isReadable_signedParams hc.additional), List.mem_append]
      exact .inr (.inl (.inl hquery))
  · rw [bodyPairs_of_sign h]
    exact .inr (.inr hbody)
  · obtain ⟨signature, -, helements, -⟩ := carriedSignatures_of_query hc hplacement h
    rw [helements]
    exact .inl helement

/-- What is collected comes from the consumer, or from a header that is written over, or is kept. -/
theorem mem_collect_strip (hpair : pair ∈ c.collect (strip r)) : pair ∈ c.additional ∨
    c.placement = .header ∧ pair ∈ headerParams r ∨ IsKept c.placement r pair := by
  rcases mem_collect.1 hpair with hown | hheader | hquery | hbody
  · exact .inl hown
  · rw [headerParams_strip] at hheader
    cases hplacement : c.placement with
    | header => exact .inr (.inl ⟨rfl, hheader⟩)
    | query => exact .inr (.inr (.inr (.inr ⟨rfl, (mem_headerParams.1 hheader).1⟩)))
  · exact .inr (.inr (.inl hquery))
  · rw [bodyPairs_strip] at hbody
    exact .inr (.inr (.inr (.inl hbody)))

/-- **What is signed is sent**, but for parameters that are neither on the request nor chosen for
writing, and come from the consumer or from a header that is written over. -/
theorem sent_of_signed (hadd : c.additional.IsWritten)
    (hrealm : c.placement = .header → HasBalancedRealm r) (h : c.sign stamp r = (.ok written, r'))
    (hpair : pair ∈ c.signedParams stamp (strip r)) :
    pair ∈ received r' ∨
      ¬ IsChosen c.placement (c.signedParams stamp (strip r))
          (Placement.carriedKeys (strip r).url) pair ∧
        ¬ IsKept c.placement r pair ∧
        (pair ∈ c.additional ∨ c.placement = .header ∧ pair ∈ headerParams r) := by
  have hc := isReadable_of_isWritten hadd
  by_cases hchosen : IsChosen c.placement (c.signedParams stamp (strip r))
      (Placement.carriedKeys (strip r).url) pair
  · left
    rw [mem_received]
    cases hplacement : c.placement with
    | header =>
      rw [hplacement] at hchosen
      exact .inl (mem_elements_of_isChosen hc (hrealm hplacement) hplacement h hchosen)
    | query =>
      rw [hplacement] at hchosen
      exact .inr (.inl (mem_queryPairs_of_isChosen hc hplacement h hpair hchosen))
  -- what is not chosen was collected, and is sent if it stays where it was
  · by_cases hkept : IsKept c.placement r pair
    · exact .inl (mem_received_of_isKept hc h hkept)
    · have hcollected : pair ∈ c.collect (strip r) := by
        by_contra hcollected
        exact hchosen (isChosen_of_not_collected hpair hcollected c.placement)
      refine .inr ⟨hchosen, hkept, ?_⟩
      rcases mem_collect_strip hcollected with hown | hheader | hkept'
      · exact .inl hown
      · exact .inr hheader
      · exact absurd hkept' hkept

/-- A consumer with two values for a key, and a key that is not of the protocol. -/
def extraConsumer : Consumer :=
  { key := "ck".toList
    secret := "cs".toList
    additional := .ofList [(Key.nonce, "n".toList), (Key.timestamp, "1".toList),
      (Key.callback, "v".toList), (Key.verifier, "a".toList), (Key.verifier, "b".toList),
      ("x".toList, "1".toList)] }

/-- A request that carries a callback. -/
def callbackRequest : PlainRequest := .get "x://h/?oauth_callback=u".toList

theorem exists_sign_extraConsumer : ∃ written r',
    extraConsumer.sign ⟨"m".toList, "2".toList⟩ callbackRequest = (.ok written, r') :=
  exists_sign (by decide) rfl (by decide +kernel) _

theorem sent_of_signed_verifier : ∃ written r',
    extraConsumer.sign ⟨"m".toList, "2".toList⟩ callbackRequest = (.ok written, r') ∧
      (Key.verifier, "a".toList) ∈ received r' := by
  obtain ⟨written, r', h⟩ := exists_sign_extraConsumer
  refine ⟨written, r', h, ?_⟩
  have hrealm : HasBalancedRealm callbackRequest := fun realm hmem => nomatch hmem
  have hpair : (Key.verifier, "a".toList) ∈
      (extraConsumer.signedParams ⟨"m".toList, "2".toList⟩ (strip callbackRequest)).pairs := by
    decide +kernel
  refine (sent_of_signed (by decide +kernel) (fun _ => hrealm) h hpair).resolve_right ?_
  rintro ⟨hchosen, -⟩
  revert hchosen
  decide +kernel

/-- **What is neither chosen nor on the request is not sent.** -/
theorem not_mem_received (hc : c.IsReadable) (hrealm : HasPlainRealm r)
    (h : c.sign stamp r = (.ok written, r')) (hkey : BaseString.isSigned pair.1 = true)
    (hchosen : ¬ IsChosen c.placement (c.signedParams stamp (strip r))
      (Placement.carriedKeys (strip r).url) pair)
    (hkept : ¬ IsKept c.placement r pair) : pair ∉ received r' := by
  obtain ⟨hsignature, hne⟩ := BaseString.isSigned_iff.1 hkey
  rw [mem_received, bodyPairs_of_sign h]
  cases hplacement : c.placement with
  | header =>
    obtain ⟨signature, -, -, hr', helements⟩ := elements_of_header hc hrealm hplacement h
    rw [helements, hr', queryPairs_withHeader, Placement.mem_headerPairs]
    rintro ((⟨hfirst, hrealm | hheader⟩ | rfl) | hmem | hmem)
    · exact hne hrealm
    · exact hchosen ⟨hheader, fun _ => hfirst⟩
    · exact hsignature rfl
    · exact hkept (.inl hmem)
    · exact hkept (.inr (.inl hmem))
  | query =>
    obtain ⟨signature, -, helements, -⟩ := carriedSignatures_of_query hc hplacement h
    obtain ⟨signature, -, rfl, -⟩ := sign_query hplacement h
    rw [helements, queryPairs_signBehind (isReadable_signedParams hc.additional), List.mem_append,
      Placement.mem_queryPairs fun key hkey => contains_signedParams hkey]
    rintro (hmem | (hmem | ⟨-, hknown, hlacks⟩ | rfl) | hmem)
    · exact hkept (.inr (.inr ⟨hplacement, hmem⟩))
    · exact hkept (.inl hmem)
    · refine hchosen ⟨?_, fun hheader => ?_⟩
      · exact Placement.isHeaderKey_of_mem hknown hlacks
      · rw [hplacement] at hheader
        cases hheader
    · exact hsignature rfl
    · exact hkept (.inr (.inl hmem))

/-- A request with a realm whose quote does not end. -/
def openRealmRequest : PlainRequest :=
  Request.withHeader (PlainRequest.get "x://h/".toList) authorizationHeader
    "OAuth realm=\"q".toList

/-- A realm with a quote that does not end takes in the pairs that are written behind it. -/
theorem open_realm_not_sent :
    let plain := { extraConsumer with method := .plaintext }
    (Key.consumerKey, "ck".toList) ∈
        (plain.signedParams ⟨"m".toList, "2".toList⟩ (strip openRealmRequest)).pairs ∧
      (Key.consumerKey, "ck".toList) ∉
        (received (plain.sign ⟨"m".toList, "2".toList⟩ openRealmRequest).2).pairs := by
  decide +kernel

/-- A key that is not of the protocol, a key that the URL carries and a second value are signed and
not sent. -/
theorem signed_not_sent : ∃ written r',
    extraConsumer.sign ⟨"m".toList, "2".toList⟩ callbackRequest = (.ok written, r') ∧
      ∀ pair ∈ [("x".toList, "1".toList), (Key.callback, "v".toList), (Key.verifier, "b".toList)],
        pair ∈ extraConsumer.signedParams ⟨"m".toList, "2".toList⟩ (strip callbackRequest) ∧
          pair ∉ received r' := by
  obtain ⟨written, r', h⟩ := exists_sign_extraConsumer
  refine ⟨written, r', h, fun pair hpair => ?_⟩
  have hc : extraConsumer.IsReadable := isReadable_of_isWritten (by decide +kernel)
  have hrealm : HasPlainRealm callbackRequest := by decide
  have hall : ∀ pair ∈ [("x".toList, "1".toList), (Key.callback, "v".toList),
      (Key.verifier, "b".toList)],
      pair ∈ (extraConsumer.signedParams ⟨"m".toList, "2".toList⟩ (strip callbackRequest)).pairs ∧
        BaseString.isSigned pair.1 = true ∧
        ¬ IsChosen .header
          (extraConsumer.signedParams ⟨"m".toList, "2".toList⟩ (strip callbackRequest))
          (Placement.carriedKeys (strip callbackRequest).url) pair ∧
        ¬ IsKept .header callbackRequest pair := by
    decide +kernel
  obtain ⟨hsigned, hkey, hchosen, hkept⟩ := hall pair hpair
  exact ⟨hsigned, not_mem_received hc hrealm h hkey hchosen hkept⟩

end Consumer

end OAuth
