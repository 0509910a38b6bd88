import OAuth.Proofs.Resigning

/-!
# Where the protocol's values come from

A signing writes values for the keys of the protocol. What the query and an old header of the
request have for them is not taken over, but what a form in the body has is, and it stands in for
the consumer's own. Main statement: `Consumer.values_of_sign`, which tells for each key the values
that are written; `Consumer.sign_form` is a request that speaks for another consumer.
-/

namespace OAuth

namespace Placement

/-- The pairs that are written for a signature. -/
def pairs (placement : Placement) (signature : Text) (params : Params) (carried : List Text) :
    List Pair :=
  match placement with
  | .header => headerPairs signature params carried
  | .query => queryPairs signature params carried

/-- The text that some pairs are written as, for a request with a URL. -/
def textOf (placement : Placement) (url : Text) (pairs : List Pair) : Text :=
  match placement with
  | .header => Authorization.write (pairs.map Pair.headerText)
  | .query => Reference.append url (Text.join ['&'] (pairs.map Pair.queryText))

/-- The request with a text in the place for it. -/
def put (placement : Placement) (r : PlainRequest) (text : Text) : PlainRequest :=
  match placement with
  | .header => Request.withHeader r authorizationHeader text
  | .query => { r with url := text }

/-- Those of the values of a key that are written: a header has but one place for a key. -/
def share (placement : Placement) (values : List Text) : List Text :=
  match placement with
  | .header => values.take 1
  | .query => values

variable {placement : Placement} {signature : Text} {params : Params} {carried : List Text}
  {key : Text}

/-- **The pairs are all that is written**, in place of an earlier signature of the URL. -/
theorem write_eq_textOf (placement : Placement) (signature : Text) (r : PlainRequest)
    (params : Params) : placement.write signature r params =
      let text := placement.textOf (bareUrl r.url)
        (placement.pairs signature params (carriedKeys r.url))
      (text, placement.put r text) := by
  cases placement with
  | header =>
    have hvalue : headerValue signature params (carriedKeys r.url) =
        textOf .header (bareUrl r.url) (pairs .header signature params (carriedKeys r.url)) := by
      rw [headerValue, headerElements_eq]
      rfl
    rw [← hvalue]
    rfl
  | query =>
    have hurl : signedUrl r.url signature params =
        textOf .query (bareUrl r.url) (pairs .query signature params (carriedKeys r.url)) :=
      signedUrl_eq r.url signature params
    rw [← hurl]
    rfl

/-- Where the URL has no signature, the pairs are all that is written. -/
theorem write_eq {r : PlainRequest} (h : Key.signature ∉ carriedKeys r.url) :
    placement.write signature r params =
      let text := placement.textOf r.url (placement.pairs signature params (carriedKeys r.url))
      (text, placement.put r text) := by
  rw [write_eq_textOf, bareUrl_eq_self h]

/-- A key that is chosen for the query is chosen once. -/
theorem nodup_queryKeys (params : Params) (carried : List Text) :
    (queryKeys params carried).Nodup := by
  have hnodup : (Key.optional ++ Key.mandatory).Nodup := by decide
  exact hnodup.sublist (.append List.filter_sublist List.filter_sublist)

/-- The keys that are written into a header, beside the signature. -/
def headerKeys (carried : List Text) : List Text :=
  Key.realm :: ((Key.optional.filter fun key => !carried.contains key) ++ Key.mandatory)

theorem mem_headerKeys : key ∈ headerKeys carried ↔ key = Key.realm ∨ IsHeaderKey carried key := by
  rw [headerKeys, List.mem_cons, List.mem_append, List.mem_filter]
  simp [IsHeaderKey]

/-- A key that is written into a header is written once. -/
theorem nodup_headerKeys (carried : List Text) : (headerKeys carried).Nodup := by
  have hnodup : (Key.realm :: (Key.optional ++ Key.mandatory)).Nodup := by decide
  exact hnodup.sublist ((List.filter_sublist.append (.refl _)).cons_cons _)

theorem signaturePair_fst_ne (hkey : key ∈ Key.realm :: (Key.optional ++ Key.mandatory)) :
    ∀ pair ∈ [signaturePair signature], pair.1 ≠ key := by
  intro pair hpair
  rw [List.mem_singleton.1 hpair]
  exact (Key.ne_signature_of_mem hkey).symm

/-- A header has the first of the values of a key, if the key is written. -/
theorem valuesOf_headerPairs (hkey : key ∈ Key.realm :: (Key.optional ++ Key.mandatory)) :
    Pair.valuesOf (headerPairs signature params carried) key =
      if key = Key.realm ∨ IsHeaderKey carried key then (params.values key).take 1 else [] := by
  have hpairs : headerPairs signature params carried =
      (headerKeys carried).flatMap (fun key => (params.firstPair? key).toList) ++
        [signaturePair signature] := by
    rw [headerPairs, protocolPairs, List.filterMap_eq_flatMap_toList, headerKeys, List.flatMap_cons,
      List.append_assoc]
  have hgroup : ∀ key, ∀ pair ∈ (params.firstPair? key).toList, pair.1 = key :=
    fun key pair hpair => (Params.firstPair?_eq_some.1 (Option.mem_toList.1 hpair)).2
  rw [hpairs, Pair.valuesOf_append, Pair.valuesOf_of_forall_ne (signaturePair_fst_ne hkey),
    List.append_nil, Pair.valuesOf_flatMap (nodup_headerKeys carried) hgroup, Params.map_firstPair?]
  simp only [mem_headerKeys]

/-- A query has all the values of a key that is chosen for it. -/
theorem valuesOf_queryPairs (hkey : key ∈ Key.optional ++ Key.mandatory) :
    Pair.valuesOf (queryPairs signature params carried) key =
      if key ∈ queryKeys params carried then (params.queryPairs key).map Prod.snd else [] := by
  have hgroup : ∀ key, ∀ pair ∈ params.queryPairs key, pair.1 = key :=
    fun key pair hpair => Params.fst_of_mem_queryPairs hpair
  rw [queryPairs, ← List.singleton_append, Pair.valuesOf_append,
    Pair.valuesOf_of_forall_ne (signaturePair_fst_ne (List.mem_cons_of_mem _ hkey)),
    List.nil_append, Pair.valuesOf_flatMap (nodup_queryKeys params carried) hgroup]

/-- **For a key that the URL lacks, the values that are written are those in the set**, or the
first of them. -/
theorem valuesOf_pairs (hmandatory : ∀ key ∈ Key.mandatory, params.contains key = true)
    (hkey : key ∈ Key.optional ++ Key.mandatory) (hlacks : key ∉ carried) :
    Pair.valuesOf (placement.pairs signature params carried) key =
      placement.share (params.values key) := by
  cases placement with
  | header =>
    refine (valuesOf_headerPairs (List.mem_cons_of_mem _ hkey)).trans ?_
    rw [if_pos (.inr (isHeaderKey_of_mem hkey hlacks)), share]
  | query =>
    refine (valuesOf_queryPairs hkey).trans ?_
    cases hcontains : params.contains key with
    | true =>
      rw [if_pos ((mem_queryKeys hmandatory).2 ⟨hkey, hlacks, hcontains⟩),
        Params.map_queryPairs hcontains, share]
    | false =>
      have hnot : key ∉ queryKeys params carried := by
        rw [mem_queryKeys hmandatory, hcontains]
        simp
      rw [if_neg hnot, Params.contains_eq_false.1 hcontains, share]

end Placement

namespace Consumer

variable {c : Consumer} {stamp : Stamp} {r r' : PlainRequest} {written key : Text}

/-! ## What is settled -/

/-- The consumer's own values for the keys of the protocol. -/
def ownParams (c : Consumer) (stamp : Stamp) : Params :=
  .ofList ((c.protocolValues stamp).map Pair.encode)

/-- The values of a key: those that some parameters settle, and else the consumer's own. -/
def settledValues (c : Consumer) (stamp : Stamp) (settled : Params) (key : Text) : List Text :=
  match settled.values key with
  | [] => (c.ownParams stamp).values key
  | values => values

/-- The parameters of the consumer, and those in the body of a request. -/
def givenParams (c : Consumer) (r : PlainRequest) : Params :=
  c.additional.insertFields (bodyFields r)

theorem mem_ownParams {pair : Pair} : pair ∈ c.ownParams stamp ↔
    ∃ value ∈ c.protocolValues stamp, pair = Pair.encode value := by
  rw [ownParams, Params.mem_ofList, List.mem_map]
  simp only [eq_comm]

theorem mem_givenParams {pair : Pair} :
    pair ∈ c.givenParams r ↔ pair ∈ c.additional ∨ pair ∈ bodyPairs r := by
  rw [givenParams, Params.insertFields, Params.mem_insertAll]
  rfl

/-- A consumer has one value of its own for a key. -/
theorem values_ownParams {value : Text × Text} (h : value ∈ c.protocolValues stamp) :
    (c.ownParams stamp).values value.1 = [Percent.encode value.2] := by
  have hfst : (Pair.encode value).1 = value.1 := fst_encode_of_mem h
  refine Params.values_eq_singleton (mem_ownParams.2 ⟨value, h, Prod.ext hfst.symm rfl⟩) ?_
  intro other hother
  obtain ⟨second, hsecond, heq⟩ := mem_ownParams.1 hother
  have hkey : (Pair.encode second).1 = (Pair.encode value).1 := by rw [← heq, hfst]
  rw [eq_of_mem_protocolValues h hsecond hkey] at heq
  exact congrArg Prod.snd heq

/-- **Of what is collected for a key of the protocol, nothing is from the header or the query.** -/
theorem mem_collect_iff_given (h : key ∈ protocolKeys) {value : Text} :
    (key, value) ∈ c.collect (strip r) ↔ (key, value) ∈ c.givenParams r := by
  have hheader : (key, value) ∉ headerParams (strip r) := by
    have all : ∀ key ∈ protocolKeys, isKeptElement key = false := by decide
    intro hmem
    cases (all key h).symm.trans (mem_headerParams.1 hmem).2
  have hquery : (key, value) ∉ queryPairs (strip r) := by
    intro hmem
    have hcarried := not_mem_carriedKeys_strip (mem_generated_of_mem_protocolKeys h) r
    rw [carriedKeys_url] at hcarried
    exact hcarried (List.mem_map_of_mem hmem)
  rw [mem_collect, or_iff_right hheader, or_iff_right hquery, bodyPairs_strip, mem_givenParams]

/-- **The values that are signed for a key of the protocol** are those of the consumer's parameters
and of the body, and else the consumer's own. -/
theorem values_signedParams (h : key ∈ protocolKeys) :
    (c.signedParams stamp (strip r)).values key =
      c.settledValues stamp (c.givenParams r) key := by
  have hne : key ≠ Key.signature := by
    rintro rfl
    revert h
    decide
  have hcollect : ∀ value, (key, value) ∈ c.collect (strip r) ↔ (key, value) ∈ c.givenParams r :=
    fun _ => mem_collect_iff_given h
  have hcontains : (c.collect (strip r)).contains key = (c.givenParams r).contains key :=
    Params.contains_congr hcollect
  have hsigned : ∀ value, (key, value) ∈ c.signedParams stamp (strip r) ↔
      (key, value) ∈ c.givenParams r ∨
        (c.givenParams r).contains key = false ∧ (key, value) ∈ c.ownParams stamp := by
    intro value
    rw [mem_signedParams, hcollect, hcontains, ← mem_ownParams]
    exact and_iff_right hne
  -- a key is completed if nothing that was collected has it, and then with one value
  unfold settledValues
  split
  · next hnil =>
    have hlacks : (c.givenParams r).contains key = false := Params.contains_eq_false.2 hnil
    refine Params.values_congr fun value => ?_
    have hnot : (key, value) ∉ c.givenParams r := by
      rw [← Params.mem_values, hnil]
      exact List.not_mem_nil
    rw [hsigned, or_iff_right hnot, and_iff_right hlacks]
  · next hne =>
    have hholds : (c.givenParams r).contains key ≠ false := fun hlacks =>
      hne (Params.contains_eq_false.1 hlacks)
    refine Params.values_congr fun value => ?_
    rw [hsigned, or_iff_left fun hlacks => hholds hlacks.1]

/-- Where nothing else settles a key, the consumer's own value does. -/
theorem settledValues_of_mem {settled : Params} {value : Text × Text}
    (h : value ∈ c.protocolValues stamp) (hlacks : settled.contains value.1 = false) :
    c.settledValues stamp settled value.1 = [Percent.encode value.2] := by
  rw [settledValues, Params.contains_eq_false.1 hlacks]
  exact values_ownParams h

/-- A body without fields of a key settles nothing for it. -/
theorem settledValues_givenParams (hkey : Authorization.IsKey key)
    (h : ∀ field ∈ bodyFields r, field.1 ≠ key) :
    c.settledValues stamp (c.givenParams r) key = c.settledValues stamp c.additional key := by
  have hvalues : (c.givenParams r).values key = c.additional.values key := by
    refine Params.values_congr fun value => ?_
    rw [mem_givenParams]
    refine or_iff_left fun hmem => ?_
    obtain ⟨field, hfield, heq⟩ := List.mem_map.1 hmem
    exact h field hfield ((Key.encode_eq_iff hkey).1 (congrArg Prod.fst heq))
  rw [settledValues, hvalues, settledValues]

/-! ## What is written -/

/-- **Where the values come from that a signing writes for the keys of the protocol**: from the
consumer's parameters and the body, and else they are the consumer's own. If the body has no field
of a key, nothing of the request counts for it. -/
theorem values_of_sign (h : c.sign stamp r = (.ok written, r')) :
    ∃ signature, c.signature stamp (strip r) = .ok signature ∧
      let pairs := c.placement.pairs signature (c.signedParams stamp (strip r))
        (Placement.carriedKeys (strip r).url)
      written = c.placement.textOf (strip r).url pairs ∧
        r' = c.placement.put (strip r) written ∧
        (∀ key ∈ protocolKeys, key ∉ Reference.keys (strip r).url ∧
          Pair.valuesOf pairs key =
            c.placement.share (c.settledValues stamp (c.givenParams r) key) ∧
          ((∀ field ∈ bodyFields r, field.1 ≠ key) →
            Pair.valuesOf pairs key =
              c.placement.share (c.settledValues stamp c.additional key))) ∧
        ∀ value ∈ c.protocolValues stamp, (c.givenParams r).contains value.1 = false →
          Pair.valuesOf pairs value.1 = [Percent.encode value.2] := by
  obtain ⟨-, signature, hsignature, hwrite⟩ := sign_eq_ok.1 h
  have hlacks : ∀ key ∈ Key.generated, key ∉ Placement.carriedKeys (strip r).url :=
    fun key hkey => not_mem_carriedKeys_strip hkey r
  rw [Placement.write_eq (hlacks _ List.mem_cons_self)] at hwrite
  obtain ⟨rfl, rfl⟩ := Prod.mk.inj hwrite
  have hvalues : ∀ key ∈ protocolKeys,
      Pair.valuesOf (c.placement.pairs signature (c.signedParams stamp (strip r))
        (Placement.carriedKeys (strip r).url)) key =
          c.placement.share (c.settledValues stamp (c.givenParams r) key) := by
    intro key hkey
    rw [← values_signedParams hkey]
    exact Placement.valuesOf_pairs (fun key hkey => contains_signedParams hkey)
      (mem_protocol_of_mem_protocolKeys hkey) (hlacks key (mem_generated_of_mem_protocolKeys hkey))
  refine ⟨signature, hsignature, rfl, rfl, fun key hkey => ⟨?_, hvalues key hkey, fun hbody => ?_⟩,
    fun value hvalue hnone => ?_⟩
  · rw [← Placement.mem_carriedKeys (isKey_of_mem_protocolKeys hkey)]
    exact hlacks key (mem_generated_of_mem_protocolKeys hkey)
  · rw [hvalues key hkey, settledValues_givenParams (isKey_of_mem_protocolKeys hkey) hbody]
  · rw [hvalues value.1 (mem_protocolKeys_of_mem hvalue), settledValues_of_mem hvalue hnone]
    cases c.placement <;> rfl

/-- A request with values for the protocol in its header and its query. -/
def staleRequest : PlainRequest :=
  Request.withHeader (PlainRequest.get "x://h/?oauth_nonce=o&oauth%5Ftoken=t".toList)
    authorizationHeader "OAuth oauth_consumer_key=\"k\"".toList

theorem values_of_sign_stale : ∃ written r' pairs,
    (pinned .header).sign ⟨"a".toList, "2".toList⟩ staleRequest = (.ok written, r') ∧
      written = Placement.textOf .header (strip staleRequest).url pairs ∧
      Pair.valuesOf pairs Key.nonce = ["n".toList] ∧
      Pair.valuesOf pairs Key.consumerKey = ["ck".toList] ∧ Pair.valuesOf pairs Key.token = [] := by
  have hurl : (BaseString.normalizeUrl (strip staleRequest).url).isOk = true := by decide +kernel
  obtain ⟨written, r', hsign⟩ := exists_sign (c := pinned .header) (by decide) rfl hurl
    ⟨"a".toList, "2".toList⟩
  obtain ⟨signature, -, hwritten, -, hvalues, -⟩ := values_of_sign hsign
  have hbody : ∀ key, ∀ field ∈ bodyFields staleRequest, field.1 ≠ key := by
    intro key field hfield
    cases hfield
  have hsettled : ∀ key ∈ protocolKeys, _ := fun key hkey => (hvalues key hkey).2.2 (hbody key)
  refine ⟨written, r', _, hsign, hwritten, ?_, ?_, ?_⟩
  · rw [hsettled Key.nonce (by decide)]
    decide +kernel
  · rw [hsettled Key.consumerKey (by decide)]
    decide +kernel
  · rw [hsettled Key.token (by decide)]
    decide +kernel

/-- A consumer that signs with its secrets alone. -/
def plainConsumer : Consumer := { pinned .header with method := .plaintext }

/-- A form with fields that have keys of the protocol. -/
def foreignForm : PlainRequest :=
  PlainRequest.withForm { method := "POST".toList, url := "http://h/".toList }
    [(Key.nonce, "a".toList), (Key.consumerKey, "b".toList)]

/-- **A form speaks for another consumer**: its key is written and the consumer's is not, and its
nonce is written though the consumer has settled one. -/
theorem sign_form :
    plainConsumer.settledValues ⟨"c".toList, "2".toList⟩ plainConsumer.additional Key.consumerKey =
        ["ck".toList] ∧
      plainConsumer.settledValues ⟨"c".toList, "2".toList⟩ plainConsumer.additional Key.nonce =
        ["n".toList] ∧
      (plainConsumer.sign ⟨"c".toList, "2".toList⟩ foreignForm).1 = .ok (Authorization.write
        ["oauth_consumer_key=\"b\"".toList, "oauth_version=\"1.0\"".toList,
          "oauth_signature_method=\"PLAINTEXT\"".toList, "oauth_timestamp=\"1\"".toList,
          "oauth_nonce=\"a\"".toList, "oauth_signature=\"cs%26\"".toList]) := by
  refine ⟨?_, ?_, ?_⟩
  · decide +kernel
  · decide +kernel
  · decide +kernel

end Consumer

end OAuth
