import OAuth.Proofs.Resigning

/-!
# What a server reads

A server that gets a signed request reads parameters from the same places, with the same readers,
and signs them once more. It finds what was signed if each of the consumer's own parameters is one
that is written, and has one value, and if the request has no values for their keys. Main
statements: `Consumer.received_eq_signedParams`, the server reads what was signed, and
`Consumer.received_agrees`, it makes the signature that the request carries.
-/

namespace OAuth

namespace Consumer

/-! ## What is read -/

/-- The parameters that a server reads from a request. -/
def received (r : PlainRequest) : Params :=
  ((((Request.header? r authorizationHeader).bind Authorization.params?).getD .empty).insertFields
    (queryFields r)).insertFields (bodyFields r)

theorem mem_received {r : PlainRequest} {pair : Pair} :
    pair ∈ received r ↔ pair ∈ elements r ∨ pair ∈ queryPairs r ∨ pair ∈ bodyPairs r := by
  have hempty : pair ∉ Params.empty := Params.not_mem_empty pair
  have hheader : pair ∈ ((Request.header? r authorizationHeader).bind
      Authorization.params?).getD .empty ↔ pair ∈ elements r := by
    unfold elements
    cases Request.header? r authorizationHeader with
    | none => simp [hempty]
    | some value =>
      rw [Option.bind_some, Option.bind_some, Authorization.params?]
      cases Authorization.read? value with
      | none => simp [hempty]
      | some pairs =>
        rw [Option.map_some, Option.getD_some, Option.getD_some, Params.mem_ofList]
  rw [received, Params.insertFields, Params.mem_insertAll, Params.insertFields,
    Params.mem_insertAll, hheader, or_assoc]
  rfl

/-! ## Parameters that reach the server -/

/-- Consumers whose own parameters can all be written. -/
structure IsCanonical (c : Consumer) : Prop where
  /-- the parameters are in written form -/
  written : c.additional.IsWritten
  /-- the parameters have keys that are written -/
  known : ∀ pair ∈ c.additional, pair.1 ∈ Key.realm :: (Key.optional ++ Key.mandatory)
  /-- no key has two values -/
  single : ∀ pair ∈ c.additional, ∀ other ∈ c.additional, pair.1 = other.1 → pair = other

/-- Requests that leave a consumer's own parameters to the consumer. -/
structure IsOpenTo (c : Consumer) (r : PlainRequest) : Prop where
  /-- the header has realms without quotes, and what is written over -/
  elements : ∀ pair ∈ elements r, pair.1 = Key.realm ∧ '"' ∉ pair.2 ∨
    c.placement = .header ∧ Key.isReserved pair.1 = true
  /-- the fields of the query that stay have other keys -/
  query : ∀ pair ∈ queryPairs r, Key.isGenerated pair.1 = false →
    c.additional.contains pair.1 = false
  /-- the fields of the body have other keys -/
  body : ∀ pair ∈ bodyPairs r, c.additional.contains pair.1 = false

section Sources

variable {c : Consumer} {stamp : Stamp} {r r' : PlainRequest} {pair other : Pair}

theorem IsOpenTo.hasOwnElements (h : c.IsOpenTo r) : HasOwnElements r := by
  intro pair hpair
  rcases h.elements pair hpair with ⟨hrealm, -⟩ | ⟨-, hreserved⟩
  · exact .inr hrealm
  · exact .inl hreserved

theorem IsOpenTo.hasPlainRealm (h : c.IsOpenTo r) : HasPlainRealm r := by
  intro realm hrealm
  rcases h.elements _ hrealm with ⟨-, hplain⟩ | ⟨-, hreserved⟩
  · exact hplain
  · exact absurd (show Key.isReserved Key.realm = true from hreserved) (by decide)

/-- The consumer's own parameters are all that is collected under their keys. -/
theorem eq_of_mem_collect (hc : c.IsCanonical) (hr : c.IsOpenTo r) (hpair : pair ∈ c.additional)
    (hne : pair.1 ≠ Key.realm) (hother : other ∈ c.collect (strip r)) (hkey : other.1 = pair.1) :
    other = pair := by
  have hcontains : c.additional.contains other.1 = true :=
    Params.contains_iff.2 ⟨pair.2, hkey ▸ hpair⟩
  have hplaces := (mem_collect_of_ne hr.hasOwnElements.strip (hkey ▸ hne)).1 hother
  rcases hplaces with hadd | hquery | hbody
  · exact hc.single other hadd pair hpair hkey
  · rw [queryPairs_strip, List.mem_filter] at hquery
    rw [hr.query other hquery.1 (by simpa using hquery.2)] at hcontains
    cases hcontains
  · rw [bodyPairs_strip] at hbody
    rw [hr.body other hbody] at hcontains
    cases hcontains

/-- **What is signed can be read from the request, or is written**: then it has a key of the
protocol that the URL lacks, and is the only pair of its key. -/
theorem of_mem_signedParams (hc : c.IsCanonical) (hr : c.IsOpenTo r)
    (hpair : pair ∈ c.signedParams stamp (strip r)) (hne : pair.1 ≠ Key.realm) :
    pair ∈ queryPairs (strip r) ∨ pair ∈ bodyPairs (strip r) ∨
      pair.1 ∈ Key.optional ++ Key.mandatory ∧
        pair.1 ∉ Placement.carriedKeys (strip r).url ∧
        (c.signedParams stamp (strip r)).first? pair.1 = some pair.2 := by
  obtain ⟨hsignature, hcollected | ⟨hlacks, value, hvalue, rfl⟩⟩ := mem_signedParams.1 hpair
  · rcases (mem_collect_of_ne hr.hasOwnElements.strip hne).1 hcollected with hadd | hquery | hbody
    · have hcontains : c.additional.contains pair.1 = true := Params.contains_iff.2 ⟨pair.2, hadd⟩
      have hknown : pair.1 ∈ Key.optional ++ Key.mandatory :=
        (List.mem_cons.1 (hc.known pair hadd)).resolve_left hne
      refine .inr (.inr ⟨hknown, ?_, ?_⟩)
      · rw [carriedKeys_url, List.mem_map]
        rintro ⟨other, hother, hkey⟩
        rw [queryPairs_strip, List.mem_filter] at hother
        have hlacks := hr.query other hother.1 (by simpa using hother.2)
        rw [hkey, hcontains] at hlacks
        cases hlacks
      · refine Params.first?_of_forall_eq hpair fun other hother => ?_
        have hcollected : (pair.1, other) ∈ c.collect (strip r) := by
          rcases (mem_signedParams.1 hother).2 with hmem | ⟨hlacks, -⟩
          · exact hmem
          · rw [contains_collect hcontains] at hlacks
            cases hlacks
        exact congrArg Prod.snd (eq_of_mem_collect hc hr hadd hne hcollected rfl)
    · exact .inl hquery
    · exact .inr (.inl hbody)
  -- what completes the parameters was taken off the query before, if it was there
  · have hkey := (of_mem_protocolValues hvalue).1
    exact .inr (.inr ⟨mem_protocol_of_mem_protocolKeys hkey,
      not_mem_carriedKeys_strip (mem_generated_of_mem_protocolKeys hkey) r,
      first?_signedParams hpair hlacks⟩)

/-- What is read from the query and the body is signed. -/
theorem mem_signedParams_of_mem_places (hne : pair.1 ≠ Key.signature)
    (h : pair ∈ queryPairs (strip r) ∨ pair ∈ bodyPairs (strip r)) :
    pair ∈ c.signedParams stamp (strip r) :=
  mem_signedParams.2 ⟨hne, .inl (mem_collect.2 (.inr (.inr h)))⟩

end Sources

/-! ## Agreement -/

section Agreement

variable {c : Consumer} {stamp : Stamp} {r r' : PlainRequest} {written : Text} {pair : Pair}

theorem mem_received_of_header (hc : c.IsCanonical) (hr : c.IsOpenTo r)
    (hplacement : c.placement = .header) (h : c.sign stamp r = (.ok written, r'))
    (hkey : BaseString.isSigned pair.1 = true) :
    pair ∈ received r' ↔ pair ∈ c.signedParams stamp (strip r) := by
  obtain ⟨hsignature, hrealm⟩ := BaseString.isSigned_iff.1 hkey
  obtain ⟨signature, -, -, hr', helements⟩ :=
    elements_of_header (isReadable_of_isWritten hc.written) hr.hasPlainRealm hplacement h
  rw [mem_received, helements, hr', queryPairs_withHeader, bodyPairs_withHeader,
    Placement.mem_headerPairs]
  constructor
  · rintro ((⟨hfirst, -⟩ | rfl) | hplaces)
    · exact Params.first?_mem hfirst
    · exact absurd rfl hsignature
    · exact mem_signedParams_of_mem_places hsignature hplaces
  · intro hpair
    rcases of_mem_signedParams hc hr hpair hrealm with hquery | hbody | ⟨hknown, hlacks, hfirst⟩
    · exact .inr (.inl hquery)
    · exact .inr (.inr hbody)
    · exact .inl (.inl ⟨hfirst, .inr (Placement.isHeaderKey_of_mem hknown hlacks)⟩)

theorem mem_received_of_query (hc : c.IsCanonical) (hr : c.IsOpenTo r)
    (hplacement : c.placement = .query) (h : c.sign stamp r = (.ok written, r'))
    (hkey : BaseString.isSigned pair.1 = true) :
    pair ∈ received r' ↔ pair ∈ c.signedParams stamp (strip r) := by
  obtain ⟨hsignature, hrealm⟩ := BaseString.isSigned_iff.1 hkey
  obtain ⟨signature, -, hr', -⟩ := sign_query hplacement h
  have hreadable : (c.signedParams stamp (strip r)).IsReadable :=
    isReadable_signedParams (isReadable_of_isWritten hc.written).additional
  have helements : pair ∉ elements r' := by
    intro hmem
    rw [hr', elements_signBehind] at hmem
    rcases hr.elements pair hmem with ⟨hown, -⟩ | ⟨hheader, -⟩
    · exact hrealm hown
    · rw [hplacement] at hheader
      cases hheader
  have hbody : bodyPairs r' = bodyPairs (strip r) := by
    rw [bodyPairs_of_sign h, bodyPairs_strip]
  rw [mem_received, or_iff_right helements, hbody, hr', queryPairs_signBehind hreadable,
    List.mem_append, Placement.mem_queryPairs fun key hkey => contains_signedParams hkey]
  constructor
  · rintro ((hquery | ⟨hsigned, -⟩ | rfl) | hbody)
    · exact mem_signedParams_of_mem_places hsignature (.inl hquery)
    · exact hsigned
    · exact absurd rfl hsignature
    · exact mem_signedParams_of_mem_places hsignature (.inr hbody)
  · intro hpair
    rcases of_mem_signedParams hc hr hpair hrealm with hquery | hbody | ⟨hknown, hlacks, -⟩
    · exact .inl (.inl hquery)
    · exact .inr hbody
    · exact .inl (.inr (.inl ⟨hpair, hknown, hlacks⟩))

/-- **A server reads what was signed**, but for the signature and the realm. -/
theorem received_eq_signedParams (hc : c.IsCanonical) (hr : c.IsOpenTo r)
    (h : c.sign stamp r = (.ok written, r')) : (received r').filter BaseString.isSigned =
      (c.signedParams stamp (strip r)).filter BaseString.isSigned := by
  refine Params.ext fun pair => ?_
  rw [Params.mem_filter, Params.mem_filter]
  refine and_congr_left fun hkey => ?_
  cases hplacement : c.placement with
  | header => exact mem_received_of_header hc hr hplacement h hkey
  | query => exact mem_received_of_query hc hr hplacement h hkey

/-- The URL of a signed request has the normal form that was signed. -/
theorem normalizeUrl_of_sign (hadd : c.additional.IsReadable) (htidy : Url.IsTidy r.url)
    (h : c.sign stamp r = (.ok written, r')) {normal : Text}
    (hnormal : BaseString.normalizeUrl (strip r).url = .ok normal) :
    BaseString.normalizeUrl r'.url = .ok normal := by
  cases hplacement : c.placement with
  | header =>
    obtain ⟨signature, -, -, rfl⟩ := sign_header hplacement h
    exact hnormal
  | query =>
    obtain ⟨signature, -, rfl, -⟩ := sign_query hplacement h
    have hreadable : (c.signedParams stamp (strip r)).IsReadable := isReadable_signedParams hadd
    have hbase : (Reference.ofText (stripUrl r.url)).base =
        (Reference.ofText (signBehind r signature (c.signedParams stamp (strip r))).url).base := by
      rw [base_stripUrl, base_signBehind hreadable]
    rw [strip_eq] at hnormal
    exact BaseString.normalizeUrl_of_ofText (isTidy_stripUrl htidy)
      (isTidy_signBehind hreadable htidy signature) hbase hnormal

/-- The signature that was made is the only one in the header and the query. -/
theorem carriedSignatures_of_sign (hc : c.IsCanonical) (hr : c.IsOpenTo r)
    (h : c.sign stamp r = (.ok written, r')) :
    ∃ signature, c.signature stamp (strip r) = .ok signature ∧
      carriedSignatures r' = [Percent.encode signature] := by
  have hreadable := isReadable_of_isWritten hc.written
  cases hplacement : c.placement with
  | header =>
    obtain ⟨signature, hmade, hheader, hquery, -⟩ :=
      carriedSignatures_of_header hreadable hr.hasPlainRealm hplacement h
    refine ⟨signature, hmade, ?_⟩
    rw [carriedSignatures, hheader, hquery, List.append_nil]
  | query =>
    obtain ⟨signature, hmade, helements, hquery⟩ :=
      carriedSignatures_of_query hreadable hplacement h
    have hnone : signaturesOf (elements r) = [] := by
      refine signaturesOf_eq_nil fun pair hpair => ?_
      rcases hr.elements pair hpair with ⟨hrealm, -⟩ | ⟨hheader, -⟩
      · rw [hrealm]
        exact Key.ne_signature_of_mem List.mem_cons_self
      · rw [hplacement] at hheader
        cases hheader
    refine ⟨signature, hmade, ?_⟩
    rw [carriedSignatures, helements, hnone, hquery, List.nil_append]

/-- **A server makes the signature that it finds.** From the parameters that it reads it gets the
base string that was signed, and the signature of that is the one that the request carries. -/
theorem received_agrees (hmethod : c.method ≠ .plaintext) (hc : c.IsCanonical)
    (htidy : Url.IsTidy r.url) (hr : c.IsOpenTo r) (h : c.sign stamp r = (.ok written, r')) :
    (received r').filter BaseString.isSigned =
        (c.signedParams stamp (strip r)).filter BaseString.isSigned ∧
      ∃ base signature,
        BaseString.make r.method (strip r).url (c.signedParams stamp (strip r)) = .ok base ∧
        c.signature stamp (strip r) = .ok signature ∧
        BaseString.make r'.method r'.url (received r') = .ok base ∧
        c.signer.sign r'.method r'.url (received r') = .ok signature ∧
        carriedSignatures r' = [Percent.encode signature] := by
  have hparams := received_eq_signedParams hc hr h
  refine ⟨hparams, ?_⟩
  obtain ⟨signature, hmade, hcarried⟩ := carriedSignatures_of_sign hc hr h
  have hsame : Request.method (strip r) = r.method := by
    rw [strip_eq]
    rfl
  have hsigned := hmade
  rw [Consumer.signature, hsame] at hsigned
  obtain ⟨base, hbase, hsign⟩ := (Signer.sign_eq_ok_of_ne hmethod).1 hsigned
  have hread : BaseString.make r'.method r'.url (received r') = .ok base := by
    rw [method_of_sign h]
    refine BaseString.make_of_filter (fun normal hnormal => ?_) hparams.symm hbase
    exact normalizeUrl_of_sign (isReadable_of_isWritten hc.written).additional htidy h hnormal
  refine ⟨base, signature, hbase, hmade, hread, ?_, hcarried⟩
  exact (Signer.sign_eq_ok_of_ne hmethod).2 ⟨base, hread, hsign⟩

/-- A consumer with a realm and a callback for every request. -/
def realmConsumer : Consumer :=
  { key := "ck".toList
    secret := "cs".toList
    additional := .ofList [(Key.realm, "r".toList), (Key.callback, "oob".toList)] }

/-- A request with a field in the query and one in the body, signed by another consumer before. -/
def formRequest : PlainRequest :=
  Request.withHeader ((PlainRequest.get "x://h/?a=1&oauth_token=t".toList).withForm
    [("b".toList, "2".toList)]) authorizationHeader "OAuth realm=\"q\", oauth_nonce=\"m\"".toList

/-- The request signed. -/
def signedForm : PlainRequest := (realmConsumer.sign ⟨"n".toList, "1".toList⟩ formRequest).2

theorem received_agrees_signedForm :
    ∃ signature, carriedSignatures signedForm = [Percent.encode signature] ∧
      realmConsumer.signer.sign signedForm.method signedForm.url (received signedForm) =
        .ok signature := by
  have hc : realmConsumer.IsCanonical :=
    { written := by decide +kernel
      known := by
        show ∀ pair ∈ realmConsumer.additional.pairs, _
        decide
      single := by
        show ∀ pair ∈ realmConsumer.additional.pairs, ∀ other ∈ realmConsumer.additional.pairs, _
        decide }
  have hr : realmConsumer.IsOpenTo formRequest :=
    { elements := by decide +kernel
      query := by decide +kernel
      body := by decide +kernel }
  have hurl : (BaseString.normalizeUrl (strip formRequest).url).isOk = true := by decide +kernel
  obtain ⟨written, r', h⟩ := exists_sign (c := realmConsumer) (by decide) rfl hurl
    ⟨"n".toList, "1".toList⟩
  obtain ⟨-, base, signature, -, -, -, hsigned, hcarried⟩ :=
    received_agrees (by decide) hc (by decide) hr h
  rw [signedForm, h]
  exact ⟨signature, hcarried, hsigned⟩

end Agreement

end Consumer

end OAuth
