import OAuth.Proofs.Replacement

/-!
# Keys made of secrets

The key of a signer is its two secrets, encoded, with a `&` between them. Since an encoded text has
no `&`, the secrets are known from the key, and so they are from a signature that is nothing but the
key. Main statements: `Signer.key_eq_iff`; `Placement.signaturesIn_write`, a signature that is
written is the one that is read back; and `Signer.secrets_of_signature`.
-/

namespace OAuth

namespace Signer

/-- The secrets in a key: the texts before and behind the first `&`, decoded. -/
def secrets? (key : Text) : Option (Text × Text) :=
  (Text.cut? '&' key).map (Prod.map Percent.decode Percent.decode)

variable {signer other : Signer}

/-- A key has one `&`. -/
theorem count_key (signer : Signer) : signer.key.count '&' = 1 := by
  have hnone : ∀ s, (Percent.encode s).count '&' = 0 := fun s =>
    List.count_eq_zero.2 (Percent.not_mem_encode (by decide) s)
  rw [key, List.count_append, List.count_cons_self, hnone, hnone]

/-- **The secrets are found in the key.** -/
theorem secrets?_key (signer : Signer) :
    secrets? signer.key = some (signer.consumerSecret, signer.tokenSecret) := by
  have hcut : Text.cut? '&' signer.key =
      some (Percent.encode signer.consumerSecret, Percent.encode signer.tokenSecret) :=
    Text.cut?_append_cons (Percent.not_mem_encode (by decide) _) _
  rw [secrets?, hcut, Option.map_some, Prod.map_apply, Percent.decode_encode,
    Percent.decode_encode]

/-- **Two keys are equal if and only if their secrets are.** -/
theorem key_eq_iff : signer.key = other.key ↔
    signer.consumerSecret = other.consumerSecret ∧ signer.tokenSecret = other.tokenSecret := by
  constructor
  · intro h
    have hsecrets := secrets?_key signer
    rw [h, secrets?_key, Option.some.injEq, Prod.mk.injEq] at hsecrets
    exact ⟨hsecrets.1.symm, hsecrets.2.symm⟩
  · rintro ⟨hconsumer, htoken⟩
    rw [key, hconsumer, htoken, key]

end Signer

namespace Placement

/-! ## Signatures that are read back -/

/-- The signatures that the reader of a place finds in a text that was written there, decoded. -/
def signaturesIn (placement : Placement) (text : Text) : List Text :=
  match placement with
  | .header =>
    (((Authorization.params? text).getD .empty).values Key.signature).map Percent.decode
  | .query =>
    ((Reference.ofText text).fields.filter fun field => field.1 == Key.signature).map fun field =>
      field.pair.2

variable {placement : Placement} {signature : Text} {params : Params}

theorem signaturesIn_headerValue (h : params.IsWritten) (carried : List Text) :
    Placement.header.signaturesIn (headerValue signature params carried) = [signature] := by
  have hrealm : ∀ realm, params.first? Key.realm = some realm → '"' ∉ realm := fun realm hfirst =>
    (h _ (Params.first?_mem hfirst)).2.not_mem (by decide)
  have hpairs : Pair.valuesOf (headerPairs signature params carried) Key.signature =
      [Percent.encode signature] := Consumer.signaturesOf_headerPairs
  have hmem : ∀ value,
      (Key.signature, value) ∈ Params.ofList (headerPairs signature params carried) ↔
        value = Percent.encode signature := by
    intro value
    rw [Params.mem_ofList, ← Pair.mem_valuesOf, hpairs, List.mem_singleton]
  have hvalues : (Params.ofList (headerPairs signature params carried)).values Key.signature =
      [Percent.encode signature] :=
    Params.values_eq_singleton ((hmem _).2 rfl) fun value => (hmem value).1
  rw [signaturesIn, Authorization.params?, read?_headerValue h.isReadable hrealm,
    Option.map_some, Option.getD_some, hvalues, List.map_singleton, Percent.decode_encode]

theorem signaturesIn_signedUrl (h : params.IsReadable) (url : Text) :
    Placement.query.signaturesIn (signedUrl url signature params) = [signature] := by
  -- what was there has another key, and of what is put behind it only the signature has this one
  have hbefore : (((Reference.ofText url).fields.filter fun field =>
      field.1 != Key.signature).filter fun field => field.1 == Key.signature) = [] := by
    simp [List.filter_filter]
  have hrest : ((((queryKeys params (carriedKeys url)).flatMap params.queryPairs).map
      Pair.field).filter fun field => field.1 == Key.signature) = [] := by
    rw [List.filter_eq_nil_iff, List.forall_mem_map]
    intro pair hpair
    obtain ⟨key, hkey, hpair⟩ := List.mem_flatMap.1 hpair
    have hprotocol := mem_of_mem_queryKeys hkey
    have hne := Key.ne_signature_of_mem (List.mem_cons_of_mem _ hprotocol)
    rw [Pair.field, Params.fst_of_mem_queryPairs hpair,
      Key.decode_eq_self (Key.isKey_of_mem_protocol hprotocol), beq_iff_eq]
    exact hne
  rw [signaturesIn, fields_signedUrl h, List.filter_append, hbefore, List.nil_append, queryPairs,
    List.map_cons, field_signaturePair]
  simp only [List.filter_cons, beq_self_eq_true, ↓reduceIte, hrest]
  rfl

variable {ρ : Type} [Request ρ]

/-- **A signature that is written is the one that is read back**, whatever the request carries. -/
theorem signaturesIn_write (h : params.IsWritten) (placement : Placement) (signature : Text)
    (r : ρ) : placement.signaturesIn (placement.write signature r params).1 = [signature] := by
  cases placement with
  | header => exact signaturesIn_headerValue h _
  | query => exact signaturesIn_signedUrl h.isReadable _

end Placement

namespace Signer

variable {ρ : Type} [Request ρ]

/-- **The secrets are known from a signature that is made of them.** Signers that sign with the
secrets themselves make the same signature, and signers with a digest have the same key, if and only
if the secrets are the same, the secret of no token being empty. The secrets are found on both sides
of the only `&` of the signature, also when it was written onto a request and read back. -/
theorem secrets_of_signature (secret secret' : Text) (token token' : Option Text) :
    let plain : Signer := ⟨.plaintext, secret, token.getD []⟩
    let plain' : Signer := ⟨.plaintext, secret', token'.getD []⟩
    let keyed : Signer := ⟨.hmacSha1, secret, token.getD []⟩
    let keyed' : Signer := ⟨.hmacSha1, secret', token'.getD []⟩
    let areSame := secret = secret' ∧ token.getD [] = token'.getD []
    (∀ method url params method' url' params',
      plain.sign method url params = plain'.sign method' url' params' ↔ areSame) ∧
      (keyed.key = keyed'.key ↔ areSame) ∧
      ∀ method url params, ∃ signature, plain.sign method url params = .ok signature ∧
        signature.count '&' = 1 ∧ secrets? signature = some (secret, token.getD []) ∧
        ∀ (placement : Placement) (r : ρ) (written : Params), written.IsWritten →
          (placement.signaturesIn (placement.write signature r written).1).map secrets? =
            [some (secret, token.getD [])] := by
  intro plain plain' keyed keyed' areSame
  have hsign : ∀ method url params, plain.sign method url params = .ok plain.key :=
    fun _ _ _ => rfl
  have hsign' : ∀ method url params, plain'.sign method url params = .ok plain'.key :=
    fun _ _ _ => rfl
  have hsecrets : secrets? plain.key = some (secret, token.getD []) := secrets?_key plain
  refine ⟨fun method url params method' url' params' => ?_, key_eq_iff,
    fun method url params => ⟨plain.key, hsign method url params, count_key plain, hsecrets, ?_⟩⟩
  · rw [hsign, hsign', Except.ok.injEq]
    exact key_eq_iff
  · intro placement r written hwritten
    rw [Placement.signaturesIn_write hwritten, List.map_singleton, hsecrets]

/-- Parameters with a realm and two nonces. -/
def realmParams : Params :=
  .ofList [(Key.realm, "a%20b".toList), (Key.nonce, "n".toList), (Key.nonce, "m".toList)]

/-- A secret with a `&` and a `%` in it, and none of a token, are found in a header and behind a
query that has an earlier signature. The `&` may not be moved to the other secret. -/
theorem secrets_of_signature_separators :
    let plain : Signer := ⟨.plaintext, "a&%".toList, (none : Option Text).getD []⟩
    let r := PlainRequest.get "http://h/?x=1&oauth%5Fsignature=s&y#f".toList
    realmParams.IsWritten ∧
      (∀ placement : Placement,
        (placement.signaturesIn (placement.write plain.key r realmParams).1).map secrets? =
          [some ("a&%".toList, [])]) ∧
      plain.key ≠ (⟨.plaintext, "a".toList, (some "&%".toList).getD []⟩ : Signer).key := by
  intro plain r
  have hwritten : realmParams.IsWritten := by decide +kernel
  obtain ⟨hsame, -, hfound⟩ :=
    @secrets_of_signature PlainRequest _ "a&%".toList "a".toList none (some "&%".toList)
  obtain ⟨signature, hsign, -, -, hplaces⟩ := hfound r.method r.url realmParams
  obtain rfl : plain.key = signature := Except.ok.inj hsign
  refine ⟨hwritten, fun placement => hplaces placement r realmParams hwritten, fun hkey => ?_⟩
  have hboth := (hsame r.method r.url realmParams r.method r.url realmParams).1
    (congrArg Except.ok hkey)
  revert hboth
  decide

end Signer

end OAuth
