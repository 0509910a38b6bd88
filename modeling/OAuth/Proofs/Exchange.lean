import OAuth.Proofs.Provenance
import OAuth.Proofs.Session

/-!
# What is asked in a handshake

Where nothing stands between a handshake and what sends its requests, each request and the URL for
the user are known from the URLs of the handshake, the callback and the verifier. A callback and a
verifier are told in the query and never in the header, and a request token is asked for without
the token that the consumer has. Main statement: `Handshake.exchange_of_isDirect`.
-/

namespace OAuth

namespace Consumer

/-- Consumers whose parameters have no quotes in their values for the keys of a header. -/
def HasPlainValues (c : Consumer) : Prop :=
  ∀ key ∈ Key.realm :: (Key.optional ++ Key.mandatory), ∀ value,
    (key, value) ∈ c.additional → '"' ∉ value

/-- The tokens that a consumer writes into a header. -/
def sentTokens (c : Consumer) : List Text := (c.sentToken?.map Percent.encode).toList

/-- The pairs in the header of a signed request for what a URL names. -/
def askedPairs (c : Consumer) (stamp : Stamp) (url signature : Text) : List Pair :=
  Placement.headerPairs signature (c.signedParams stamp (strip (PlainRequest.get url)))
    (Placement.carriedKeys (strip (PlainRequest.get url)).url)

/-- What a consumer asks when it has signed a request for what a URL names: the fields of its
query, and the tokens that stand in its header. -/
structure IsAsked (c : Consumer) (stamp : Stamp) (url : Text) (fields : List Form.Field)
    (tokens : List Text) (r : PlainRequest) : Prop where
  /-- the fields of the query -/
  fields : queryFields r = fields
  /-- the header is the only one; the pairs that it is written of tell the tokens, and no callback
  or verifier, and they are what is read of it if no quotes come into it -/
  header : ∃ signature, c.signature stamp (strip (PlainRequest.get url)) = .ok signature ∧
    let pairs := c.askedPairs stamp url signature
    r.headers = [(authorizationHeader, Authorization.write (pairs.map Pair.headerText))] ∧
      Pair.valuesOf pairs Key.callback = [] ∧ Pair.valuesOf pairs Key.verifier = [] ∧
      Pair.valuesOf pairs Key.token = tokens ∧ (c.HasPlainValues → elements r = pairs)

variable {c : Consumer} {stamp : Stamp} {r' : PlainRequest} {url written signature key : Text}

/-- Values in written form have no quotes. -/
theorem hasPlainValues_of_isWritten (h : c.additional.IsWritten) : c.HasPlainValues :=
  fun key _ value hmem => (h (key, value) hmem).2.not_mem (by decide)

/-- The consumer's own value for the token is the one that it sends. -/
theorem values_ownParams_token (c : Consumer) (stamp : Stamp) :
    (c.ownParams stamp).values Key.token = c.sentTokens := by
  unfold sentTokens
  cases hsent : c.sentToken? with
  | none =>
    refine Params.contains_eq_false.1 ?_
    rw [← Bool.not_eq_true, Params.contains_iff]
    rintro ⟨value, hmem⟩
    obtain ⟨own, hown, heq⟩ := mem_ownParams.1 hmem
    have hkey : own.1 = Key.token :=
      (fst_encode_of_mem hown).symm.trans (congrArg Prod.fst heq).symm
    have hkeys : own.1 ∈ (c.protocolValues stamp).map Prod.fst := List.mem_map_of_mem hown
    rw [map_fst_protocolValues, hsent, hkey] at hkeys
    revert hkeys
    decide
  | some token =>
    have hown : (Key.token, token) ∈ c.protocolValues stamp := by
      simp [protocolValues, hsent]
    exact values_ownParams hown

/-- There is no callback or verifier in the header, if the consumer's parameters have none. -/
theorem valuesOf_askedPairs_of_mem (hkey : key ∈ [Key.callback, Key.verifier])
    (hadd : c.additional.contains key = false) :
    Pair.valuesOf (c.askedPairs stamp url signature) key = [] := by
  have hne : ∀ key ∈ [Key.callback, Key.verifier], key ∉ protocolKeys ∧ key ∉ Key.mandatory ∧
      key ≠ Key.realm ∧ key ≠ Key.signature ∧ isKeptElement key = false := by decide
  obtain ⟨hprotocol, hmandatory, hrealm, hsignature, hkept⟩ := hne key hkey
  refine Pair.valuesOf_of_forall_ne ?_
  rintro ⟨_, value⟩ hpair rfl
  rcases Placement.mem_headerPairs.1 hpair with ⟨hfirst, hchosen⟩ | heq
  · -- it would have to be collected, and the query is the only place for it
    have hsigned := (mem_signedParams_of_not_mem hprotocol).1 (Params.first?_mem hfirst)
    obtain ⟨-, hlacks⟩ := (hchosen.resolve_left hrealm).resolve_right hmandatory
    rcases mem_collect.1 hsigned.2 with hmem | hmem | hmem | hmem
    · rw [Params.contains_iff.2 ⟨value, hmem⟩] at hadd
      cases hadd
    · cases hkept.symm.trans (mem_headerParams.1 hmem).2
    · rw [carriedKeys_url] at hlacks
      exact hlacks (List.mem_map_of_mem hmem)
    · rw [bodyPairs_strip] at hmem
      cases hmem
  · exact hsignature (congrArg Prod.fst heq)

/-- The token in the header is the consumer's. -/
theorem valuesOf_askedPairs_token (hadd : c.additional.contains Key.token = false) :
    Pair.valuesOf (c.askedPairs stamp url signature) Key.token = c.sentTokens := by
  have hlacks : Key.token ∉ Placement.carriedKeys (strip (PlainRequest.get url)).url :=
    not_mem_carriedKeys_strip (by decide) _
  have hgiven : c.givenParams (PlainRequest.get url) = c.additional := rfl
  have hwritten : Placement.IsHeaderKey
      (Placement.carriedKeys (strip (PlainRequest.get url)).url) Key.token :=
    .inl ⟨by decide, hlacks⟩
  rw [askedPairs, Placement.valuesOf_headerPairs (by decide), if_pos (.inr hwritten),
    values_signedParams (by decide), hgiven, settledValues, Params.contains_eq_false.1 hadd,
    values_ownParams_token, sentTokens]
  cases c.sentToken? <;> rfl

/-- No value in the header has quotes, if none of the consumer's has. -/
theorem not_mem_of_mem_askedPairs (hplain : c.HasPlainValues) {pair : Pair}
    (hpair : pair ∈ c.askedPairs stamp url signature) : '"' ∉ pair.2 := by
  have hnone : headerParams (strip (PlainRequest.get url)) = .empty := headerParams_strip _
  rcases Placement.mem_headerPairs.1 hpair with ⟨hfirst, hkey⟩ | rfl
  · have hmem : pair.1 ∈ Key.realm :: (Key.optional ++ Key.mandatory) :=
      List.mem_cons.2 (hkey.imp_right Placement.IsHeaderKey.mem)
    refine value_of_mem_signedParams (fun s hs => hs.not_mem (by decide)) (hplain _ hmem)
      (fun value hheader => ?_) (Params.first?_mem hfirst)
    rw [hnone] at hheader
    exact absurd hheader (Params.not_mem_empty _)
  · exact Percent.not_mem_encode (by decide) _

/-- **What a consumer asks** with a request for what a URL names. -/
theorem isAsked_of_sign (hplacement : c.placement = .header)
    (hadd : ∀ key ∈ Key.optional, c.additional.contains key = false)
    (h : c.sign stamp (PlainRequest.get url) = (.ok written, r')) :
    c.IsAsked stamp url
      ((Reference.ofText url).fields.filter fun field => !Key.isGenerated field.1)
      c.sentTokens r' := by
  obtain ⟨signature, hsignature, rfl, rfl⟩ := sign_header hplacement h
  refine ⟨?_, signature, hsignature, ?_, ?_, ?_, ?_, ?_⟩
  · rw [strip_eq]
    exact fields_stripUrl url
  · have hnone : (strip (PlainRequest.get url)).headers = [] := by
      rw [strip_eq]
      rfl
    change (strip (PlainRequest.get url)).headers.set authorizationHeader _ = _
    rw [hnone, Placement.headerValue, Placement.headerElements_eq]
    rfl
  · exact valuesOf_askedPairs_of_mem (by decide) (hadd _ (by decide))
  · exact valuesOf_askedPairs_of_mem (by decide) (hadd _ (by decide))
  · exact valuesOf_askedPairs_token (hadd _ (by decide))
  · intro hplain
    rw [elements_withHeader, Placement.read?_headerValue_of_not_mem fun pair hpair =>
      not_mem_of_mem_askedPairs hplain hpair]
    rfl

/-- A consumer without a token sends an empty one if that is wanted, and none else. -/
theorem sentTokens_withoutToken (c : Consumer) :
    c.withoutToken.sentTokens = if c.sendsEmptyToken then [[]] else [] := by
  have hsent : c.withoutToken.sentToken? = if c.sendsEmptyToken then some [] else none := rfl
  rw [sentTokens, hsent]
  cases c.sendsEmptyToken <;> rfl

end Consumer

/-! ## Requests of a handshake -/

namespace Handshake

variable {τ ρ : Type} {net : Transport τ PlainRequest} {state : τ} {h : Handshake PlainRequest}
  {c : Consumer} {stamp : Stamp} {url : Text}

/-- A handshake with nothing between it and what sends its requests, and a consumer that signs in
the header and has no token, callback or verifier among its parameters. -/
structure IsDirect (net : Transport τ PlainRequest) (h : Handshake PlainRequest) (c : Consumer) :
    Prop where
  /-- requests are made for what a URL names, and nothing else -/
  create : ∀ state url, net.create state url = .ok (PlainRequest.get url)
  /-- there are no headers for each request -/
  headers : h.headers = []
  /-- nothing changes a request -/
  listener : h.listener = none
  /-- the URL for request tokens has no fragment -/
  requestUrl : '#' ∉ h.requestUrl
  /-- the URL for access tokens has no fragment -/
  accessUrl : '#' ∉ h.accessUrl
  /-- the URL for the user has no fragment -/
  authorizeUrl : '#' ∉ h.authorizeUrl
  /-- the consumer signs in the header -/
  placement : c.placement = .header
  /-- what it may send beside the mandatory parameters is not settled -/
  additional : ∀ key ∈ Key.optional, c.additional.contains key = false

theorem IsDirect.withoutToken (hdirect : IsDirect net h c) : IsDirect net h c.withoutToken where
  create := hdirect.create
  headers := hdirect.headers
  listener := hdirect.listener
  requestUrl := hdirect.requestUrl
  accessUrl := hdirect.accessUrl
  authorizeUrl := hdirect.authorizeUrl
  placement := hdirect.placement
  additional := hdirect.additional

/-- What comes of a step that asks at a URL: the request is not signed, so that nothing is sent, or
what the consumer asks is sent once. -/
def IsSent {α : Type} (c : Consumer) (stamp : Stamp) (url : Text) (fields : List Form.Field)
    (tokens : List Text) (result : Except Error α) (sent : List (Sending PlainRequest)) : Prop :=
  (∃ error, (c.sign stamp (PlainRequest.get url)).1 = .error error ∧ result = .error error ∧
      sent = []) ∨
    ∃ sending, sent = [sending] ∧ c.IsAsked stamp url fields tokens sending.request

/-- **A request for a token asks for the fields of its URL**, but for those that an earlier signing
may have written. -/
theorem isSent_fetch (hdirect : IsDirect net h c) (state : τ) (stamp : Stamp) (url : Text) :
    IsSent c stamp url
      ((Reference.ofText url).fields.filter fun field => !Key.isGenerated field.1) c.sentTokens
      (fetch net.recorded (state, []) h c stamp url).1
      (fetch net.recorded (state, []) h c stamp url).2.1.2 := by
  have hprepared : ∀ r, (h.prepared r).1 = r := by
    intro r
    simp [prepared, hdirect.headers, hdirect.listener, Request.withHeaders]
  have hsubmitted : ∀ r, (h.submitted r).1 = r := by
    intro r
    simp [submitted, hdirect.listener]
  have hmade : net.recorded.create (state, []) url = .ok (PlainRequest.get url) :=
    hdirect.create state url
  have hfetched := fetch_cases net.recorded (state, []) h c stamp url
  -- the result and the record are the indices of the cases, so they have to vary
  generalize (fetch net.recorded (state, []) h c stamp url).1 = result at hfetched ⊢
  generalize (fetch net.recorded (state, []) h c stamp url).2.1 = next at hfetched ⊢
  cases hfetched with
  | unmade hcreate => cases hmade.symm.trans hcreate
  | unsigned hcreate hsign =>
    obtain rfl := Except.ok.inj (hmade.symm.trans hcreate)
    rw [hprepared] at hsign
    exact .inl ⟨_, by rw [hsign], rfl, rfl⟩
  | sent hcreate hsign hexchange =>
    obtain rfl := Except.ok.inj (hmade.symm.trans hcreate)
    obtain ⟨-, rfl⟩ := Prod.mk.inj hexchange
    rw [hprepared] at hsign
    refine .inr ⟨_, rfl, ?_⟩
    rw [hsubmitted]
    exact Consumer.isAsked_of_sign hdirect.placement hdirect.additional hsign

/-- What is sent does not change with the answer, as long as errors are the same. -/
theorem IsSent.map {α β : Type} {fields : List Form.Field} {tokens : List Text}
    {result : Except Error α} {sent : List (Sending PlainRequest)}
    (hsent : IsSent c stamp url fields tokens result sent) {result' : Except Error β}
    (hresult : ∀ error, result = .error error → result' = .error error) :
    IsSent c stamp url fields tokens result' sent :=
  hsent.imp_left fun ⟨error, hsign, herror, hnil⟩ => ⟨error, hsign, hresult error herror, hnil⟩

/-- **The request for a request token** asks for the fields of its URL and the callback, and for no
token but an empty one that is wanted. -/
theorem isSent_requestToken (hdirect : IsDirect net h c) (state : τ) (stamp : Stamp)
    (callback : Text) :
    let asked := requestToken net.recorded (state, []) h c stamp callback
    IsSent c.withoutToken stamp (Reference.addFields h.requestUrl [(Key.callback, callback)])
      (((Reference.ofText h.requestUrl).fields.filter fun field => !Key.isGenerated field.1) ++
        [(Key.callback, some callback)])
      (if c.sendsEmptyToken then [[]] else []) asked.result asked.state.2 := by
  have hsent := isSent_fetch hdirect.withoutToken state stamp
    (Reference.addFields h.requestUrl [(Key.callback, callback)])
  have hkept : Key.isGenerated Key.callback = false := by decide
  rw [Reference.fields_addFields hdirect.requestUrl, List.filter_append, List.map_singleton,
    List.filter_singleton, hkept, Consumer.sentTokens_withoutToken] at hsent
  rw [requestToken]
  rcases hfetch : fetch net.recorded (state, []) h c.withoutToken stamp
    (Reference.addFields h.requestUrl [(Key.callback, callback)]) with ⟨error | reply, next, events⟩
  · rw [hfetch] at hsent
    exact hsent.map fun _ herror => by
      cases herror
      rfl
  · rw [hfetch] at hsent
    exact hsent.map fun _ herror => by cases herror

/-- The fields that tell a verifier, to a server that takes note of callbacks. -/
def verifierFields (h : Handshake ρ) (verifier : Option Text) : List Form.Field :=
  if h.isConfirmed then (verifier.map fun verifier => (Key.verifier, some verifier)).toList else []

theorem fields_exchangeUrl (hurl : '#' ∉ h.accessUrl) (verifier : Option Text) :
    (Reference.ofText (h.exchangeUrl verifier)).fields =
      (Reference.ofText h.accessUrl).fields ++ h.verifierFields verifier := by
  unfold exchangeUrl verifierFields
  cases verifier with
  | none => simp
  | some verifier =>
    cases h.isConfirmed with
    | false => simp
    | true => exact Reference.fields_addFields hurl [(Key.verifier, verifier)]

theorem filter_verifierFields (h : Handshake ρ) (verifier : Option Text) :
    (h.verifierFields verifier).filter (fun field => !Key.isGenerated field.1) =
      h.verifierFields verifier := by
  have hkept : Key.isGenerated Key.verifier = false := by decide
  unfold verifierFields
  cases h.isConfirmed <;> cases verifier <;> simp [hkept]

/-- **The request for an access token** asks for the fields of its URL and the verifier, and for
the token that the consumer has. -/
theorem isSent_accessToken (hdirect : IsDirect net h c) (state : τ) (stamp : Stamp)
    (htoken : c.token.isSome = true) (hsecret : c.tokenSecret.isSome = true)
    (verifier : Option Text) :
    let asked := accessToken net.recorded (state, []) h c stamp verifier
    IsSent c stamp (h.exchangeUrl verifier)
      (((Reference.ofText h.accessUrl).fields.filter fun field => !Key.isGenerated field.1) ++
        h.verifierFields verifier)
      c.sentTokens asked.result asked.state.2 := by
  have hsent := isSent_fetch hdirect state stamp (h.exchangeUrl verifier)
  have hholds : ¬(c.token.isNone || c.tokenSecret.isNone) = true := by
    rw [Bool.or_eq_true, Option.isNone_iff_eq_none, Option.isNone_iff_eq_none]
    rintro (hnone | hnone)
    · rw [hnone] at htoken
      cases htoken
    · rw [hnone] at hsecret
      cases hsecret
  rw [fields_exchangeUrl hdirect.accessUrl, List.filter_append, filter_verifierFields] at hsent
  rw [accessToken, if_neg hholds]
  rcases hfetch : fetch net.recorded (state, []) h c stamp (h.exchangeUrl verifier) with
    ⟨error | reply, next, events⟩
  · rw [hfetch] at hsent
    exact hsent.map fun _ herror => by
      cases herror
      rfl
  · rw [hfetch] at hsent
    exact hsent.map fun _ herror => by cases herror

/-! ## The URL for the user -/

/-- **The URL on which a user grants access** tells the token that the consumer has now, and the
callback if the server has not taken note of it. -/
theorem fields_of_requestToken [Request ρ] {net : Transport τ ρ} {h : Handshake ρ}
    {callback granted : Text} (hurl : '#' ∉ h.authorizeUrl)
    (hresult : (requestToken net state h c stamp callback).result = .ok granted) :
    ∃ token, (requestToken net state h c stamp callback).consumer.token = some token ∧
      (Reference.ofText granted).fields = (Reference.ofText h.authorizeUrl).fields ++
        (Key.token, some token) ::
          if (requestToken net state h c stamp callback).handshake.isConfirmed then []
          else [(Key.callback, some callback)] := by
  unfold requestToken at hresult ⊢
  rcases hfetch : fetch net state h c.withoutToken stamp
    (Reference.addFields h.requestUrl [(Key.callback, callback)]) with ⟨error | reply, next, events⟩
  · simp [hfetch] at hresult
  · simp only [hfetch, Except.ok.injEq] at hresult ⊢
    subst hresult
    refine ⟨reply.token, rfl, ?_⟩
    rw [grantUrl, Reference.fields_addFields hurl]
    cases confirms reply.others <;> rfl

/-- **A request token is asked for without the token that there is**: another one in its place makes
no difference to what is sent and what comes of it. -/
theorem requestToken_congr [Request ρ] {net : Transport τ ρ} {h : Handshake ρ}
    (callback : Text) (token tokenSecret : Option Text) :
    let asked := requestToken net state h c stamp callback
    let other := requestToken net state h { c with token, tokenSecret } stamp callback
    other.result = asked.result ∧ other.handshake = asked.handshake ∧ other.state = asked.state ∧
      other.events = asked.events := by
  have hconsumer : { c with token, tokenSecret : Consumer }.withoutToken = c.withoutToken := rfl
  intro asked other
  simp only [asked, other, requestToken, hconsumer]
  rcases fetch net state h c.withoutToken stamp
    (Reference.addFields h.requestUrl [(Key.callback, callback)]) with ⟨error | reply, next, events⟩
  · exact ⟨rfl, rfl, rfl, rfl⟩
  · exact ⟨rfl, rfl, rfl, rfl⟩

/-! ## Handshakes -/

/-- **What is asked in a handshake.** The request for a request token asks for the fields of its
URL and the callback, and its header is written with no callback, and with no token but an empty one
that is wanted; this is also what is read of the header, if the consumer's values for it have no
quotes. The URL for the user has the new token, and the callback if the server has not taken note of
it; and neither depends on the token that the consumer had. The request for an access token asks for
the fields of its URL, and the verifier if the server wants one. What is sent is told by a record,
which makes no difference (`requestToken_recorded`). -/
theorem exchange_of_isDirect (hdirect : IsDirect net h c) (state : τ) (stamp : Stamp) :
    (∀ callback,
      let asked := requestToken net.recorded (state, []) h c stamp callback
      IsSent c.withoutToken stamp (Reference.addFields h.requestUrl [(Key.callback, callback)])
        (((Reference.ofText h.requestUrl).fields.filter fun field => !Key.isGenerated field.1) ++
          [(Key.callback, some callback)])
        (if c.sendsEmptyToken then [[]] else []) asked.result asked.state.2 ∧
      (∀ granted, asked.result = .ok granted → ∃ token, asked.consumer.token = some token ∧
        (Reference.ofText granted).fields = (Reference.ofText h.authorizeUrl).fields ++
          (Key.token, some token) ::
            if asked.handshake.isConfirmed then [] else [(Key.callback, some callback)]) ∧
      ∀ token tokenSecret,
        let other :=
          requestToken net.recorded (state, []) h { c with token, tokenSecret } stamp callback
        other.result = asked.result ∧ other.handshake = asked.handshake ∧
          other.state = asked.state ∧ other.events = asked.events) ∧
    ∀ verifier, c.token.isSome = true → c.tokenSecret.isSome = true →
      let asked := accessToken net.recorded (state, []) h c stamp verifier
      IsSent c stamp (h.exchangeUrl verifier)
        (((Reference.ofText h.accessUrl).fields.filter fun field => !Key.isGenerated field.1) ++
          if h.isConfirmed then
            (verifier.map fun verifier => (Key.verifier, some verifier)).toList
          else [])
        c.sentTokens asked.result asked.state.2 := by
  constructor
  · intro callback asked
    exact ⟨isSent_requestToken hdirect state stamp callback,
      fun granted hgranted => fields_of_requestToken hdirect.authorizeUrl hgranted,
      fun token tokenSecret => requestToken_congr callback token tokenSecret⟩
  · intro verifier htoken hsecret
    exact isSent_accessToken hdirect state stamp htoken hsecret verifier

/-- An answer with a token that needs encoding, and no word on the callback. -/
def tokenAnswer : Session.Attempt Unit PlainRequest :=
  Session.attemptWith 200 "oauth_token=a%26b&oauth_token_secret=s".toList

/-- A consumer with a nonce of its own. -/
def consumerWithNonce (nonce : Text) : Consumer :=
  { Session.newSession.consumer with additional := .ofList [(Key.nonce, nonce)] }

/-- A consumer that has a token already asks for another one; the user is sent to a URL with that
and with the callback. A quote in the nonce of the consumer is encoded, and the header is read as it
is meant. -/
theorem exchange_of_isDirect_granted :
    let c := (consumerWithNonce "n%22".toList).withToken "t".toList "s".toList
    let asked := requestToken tokenAnswer.net.recorded ((), []) Session.newSession.handshake c
      tokenAnswer.stamp "x y#z".toList
    (∃ granted, asked.result = .ok granted ∧ (Reference.ofText granted).fields =
        [(Key.token, some "a&b".toList), (Key.callback, some "x y#z".toList)]) ∧
      ∃ sending, asked.state.2 = [sending] ∧
        Consumer.queryFields sending.request = [(Key.callback, some "x y#z".toList)] ∧
        Pair.valuesOf (Consumer.elements sending.request) Key.callback = [] ∧
        Pair.valuesOf (Consumer.elements sending.request) Key.token = [] := by
  intro c asked
  have hdirect : IsDirect tokenAnswer.net Session.newSession.handshake c :=
    ⟨fun _ _ => rfl, rfl, rfl, by decide, by decide, by decide, rfl, by decide +kernel⟩
  have hplain : c.HasPlainValues := Consumer.hasPlainValues_of_isWritten (by decide +kernel)
  obtain ⟨hsent, hgranted, -⟩ :=
    (exchange_of_isDirect hdirect () tokenAnswer.stamp).1 "x y#z".toList
  have hok : asked.result.toOption.isSome = true := by decide +kernel
  have hheld : asked.consumer.token = some "a&b".toList := by decide +kernel
  have hunconfirmed : asked.handshake.isConfirmed = false := by decide +kernel
  cases hresult : asked.result with
  | error error =>
    rw [hresult] at hok
    cases hok
  | ok granted =>
    obtain ⟨token, htoken, hfields⟩ := hgranted granted hresult
    obtain rfl := Option.some.inj (htoken.symm.trans hheld)
    refine ⟨⟨granted, rfl, ?_⟩, ?_⟩
    · rw [hfields, hunconfirmed]
      decide +kernel
    · rcases hsent with ⟨error, -, herror, -⟩ | ⟨sending, hsending, hasked⟩
      · cases hresult.symm.trans herror
      · obtain ⟨signature, -, -, hcallback, -, htokens, hread⟩ := hasked.header
        have helements := hread hplain
        refine ⟨sending, hsending, hasked.fields.trans (by decide +kernel), ?_, ?_⟩
        · rw [helements]
          exact hcallback
        · rw [helements]
          exact htokens

/-- A header tells a callback and a token that it was not written with, where the consumer has a
nonce with quotes in it. -/
theorem quoted_nonce_tells_callback :
    let c := consumerWithNonce "n\", oauth_callback=\"u\", oauth_token=\"z".toList
    let asked := requestToken tokenAnswer.net.recorded ((), []) Session.newSession.handshake c
      tokenAnswer.stamp "oob".toList
    IsDirect tokenAnswer.net Session.newSession.handshake c ∧ c.sendsEmptyToken = false ∧
      ∃ sending, asked.state.2 = [sending] ∧
        Pair.valuesOf (Consumer.elements sending.request) Key.callback = ["u".toList] ∧
        Pair.valuesOf (Consumer.elements sending.request) Key.token = ["z".toList] := by
  intro c asked
  have hread : asked.state.2.map (fun sending =>
      let pairs := Consumer.elements sending.request
      (Pair.valuesOf pairs Key.callback, Pair.valuesOf pairs Key.token)) =
        [(["u".toList], ["z".toList])] := by
    decide +kernel
  obtain ⟨sending, hsent, hvalues⟩ := List.map_eq_singleton_iff.1 hread
  obtain ⟨hcallback, htoken⟩ := Prod.mk.inj hvalues
  exact ⟨⟨fun _ _ => rfl, rfl, rfl, by decide, by decide, by decide, rfl, by decide +kernel⟩, rfl,
    sending, hsent, hcallback, htoken⟩

end Handshake

end OAuth
