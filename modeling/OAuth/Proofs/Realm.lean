import OAuth.Proofs.Provenance
import OAuth.Proofs.Roundtrip

/-!
# The realm of a header

A signing into the header writes a realm first, if it finds one. It looks for parameters with that
name, and does not ask whether they are from the consumer, from an old header, from the query or
from a form. Main statement: `Consumer.realm_of_sign`, which realm is written;
`Consumer.sign_queryRealm` is one that only the query has.
-/

namespace OAuth

/-- A header has the first of the realms. -/
theorem Placement.valuesOf_realm_headerPairs (signature : Text) (params : Params)
    (carried : List Text) : Pair.valuesOf (headerPairs signature params carried) Key.realm =
      (params.first? Key.realm).toList := by
  rw [valuesOf_headerPairs List.mem_cons_self, if_pos (.inl rfl), List.take_one, Params.first?]

namespace Consumer

variable {c : Consumer} {stamp : Stamp} {r r' : PlainRequest} {written realm : Text}

/-- The realms that a signing finds: those of the consumer, of an old header, of the query and of
a form in the body. -/
def realms (c : Consumer) (r : PlainRequest) : List Text :=
  c.additional.values Key.realm ++ Pair.valuesOf (elements r) Key.realm ++
    Pair.valuesOf (queryPairs r) Key.realm ++ Pair.valuesOf (bodyPairs r) Key.realm

/-- The least of the realms, in the order of bytes. -/
def IsLeastRealm (c : Consumer) (r : PlainRequest) (realm : Text) : Prop :=
  realm ∈ c.realms r ∧ ∀ other ∈ c.realms r,
    other = realm ∨ Utf8.Precedes (Utf8.encode realm) (Utf8.encode other)

instance (c : Consumer) (r : PlainRequest) (realm : Text) : Decidable (c.IsLeastRealm r realm) :=
  inferInstanceAs (Decidable (_ ∧ _))

/-- What is taken off before a signing is not a realm. -/
theorem mem_queryPairs_strip_realm :
    (Key.realm, realm) ∈ queryPairs (strip r) ↔ (Key.realm, realm) ∈ queryPairs r := by
  have hstays : (!Key.isGenerated Key.realm) = true := by decide
  rw [queryPairs_strip, List.mem_filter, and_iff_left hstays]

/-- **The realms among the parameters are those of all places**, though none of them is signed. -/
theorem mem_signedParams_realm :
    (Key.realm, realm) ∈ c.signedParams stamp (strip r) ↔ realm ∈ c.realms r := by
  have hnot : Key.realm ∉ protocolKeys := by decide
  have hne : Key.realm ≠ Key.signature := by decide
  have hheader : (Key.realm, realm) ∈ headerParams r ↔ (Key.realm, realm) ∈ elements r :=
    mem_headerParams.trans (and_iff_left rfl)
  -- realms are neither completed nor taken off, so what was collected is what the places have
  rw [mem_signedParams_of_not_mem hnot, and_iff_right hne, mem_collect, headerParams_strip, hheader,
    mem_queryPairs_strip_realm, bodyPairs_strip]
  simp only [realms, List.mem_append, Params.mem_values, Pair.mem_valuesOf, or_assoc]

/-- The least realm is the first of those among the parameters. -/
theorem isLeastRealm_iff (stamp : Stamp) : c.IsLeastRealm r realm ↔
    (c.signedParams stamp (strip r)).first? Key.realm = some realm := by
  have hfirst : (c.signedParams stamp (strip r)).IsLeast (Key.realm, realm) ↔
      (c.signedParams stamp (strip r)).first? Key.realm = some realm := Params.isLeast_iff
  rw [← hfirst]
  simp only [IsLeastRealm, Params.IsLeast, mem_signedParams_realm]

/-- **Which realm is written into a header**: the least of those that the consumer's parameters, an
old header, the query and the body have, and none if they have none. -/
theorem realm_of_sign (hplacement : c.placement = .header)
    (h : c.sign stamp r = (.ok written, r')) :
    ∃ signature, c.signature stamp (strip r) = .ok signature ∧
      let pairs := Placement.headerPairs signature (c.signedParams stamp (strip r))
        (Placement.carriedKeys (strip r).url)
      written = Authorization.write (pairs.map Pair.headerText) ∧
        r' = Request.withHeader (strip r) authorizationHeader written ∧
        (∀ realm, Pair.valuesOf pairs Key.realm = [realm] ↔ c.IsLeastRealm r realm) ∧
        (Pair.valuesOf pairs Key.realm = [] ↔ c.realms r = []) ∧
        (c.IsReadable → HasPlainRealm r → elements r' = pairs) := by
  obtain ⟨signature, hsignature, rfl, rfl⟩ := sign_header hplacement h
  refine ⟨signature, hsignature, ?_, rfl, fun realm => ?_, ?_, fun hc hrealm => ?_⟩
  · rw [Placement.headerValue, Placement.headerElements_eq]
  · rw [Placement.valuesOf_realm_headerPairs, isLeastRealm_iff stamp]
    cases (c.signedParams stamp (strip r)).first? Key.realm <;> simp
  · rw [Placement.valuesOf_realm_headerPairs, Option.toList_eq_nil_iff, Params.first?_eq_none,
      List.eq_nil_iff_forall_not_mem]
    simp only [mem_signedParams_realm]
  · exact elements_headerValue (isReadable_signedParams hc.additional)
      (fun realm hmem => not_mem_of_mem_signedParams hc hrealm hmem) _ _ _

/-- A request with a realm in its header, and with a lesser one in its query. -/
def realmRequest : PlainRequest :=
  Request.withHeader (PlainRequest.get "http://h/?realm=a+".toList) authorizationHeader
    "OAuth realm=\"b, c\"".toList

theorem realm_of_sign_lesser : ∃ written r',
    plainConsumer.sign ⟨"c".toList, "2".toList⟩ realmRequest = (.ok written, r') ∧
      Pair.valuesOf (elements r') Key.realm = ["a%20".toList] := by
  have hsign : ∃ written r',
      plainConsumer.sign ⟨"c".toList, "2".toList⟩ realmRequest = (.ok written, r') :=
    ⟨_, _, sign_eq_ok.2 ⟨by decide, _, rfl, rfl⟩⟩
  obtain ⟨written, r', hsign⟩ := hsign
  obtain ⟨signature, -, -, -, hleast, -, helements⟩ := realm_of_sign rfl hsign
  have hadd : plainConsumer.additional.IsWritten := by decide +kernel
  refine ⟨written, r', hsign, ?_⟩
  rw [helements (isReadable_of_isWritten hadd) (by decide +kernel), hleast]
  decide +kernel

/-- **A field of the query is written as a realm**, though neither the consumer nor the header has
one. -/
theorem sign_queryRealm :
    plainConsumer.additional.values Key.realm = [] ∧
      elements (PlainRequest.get "http://h/?realm=q".toList) = [] ∧
      (plainConsumer.sign ⟨"c".toList, "2".toList⟩ (PlainRequest.get "http://h/?realm=q".toList)).1 =
        .ok (Authorization.write ["realm=\"q\"".toList, "oauth_consumer_key=\"ck\"".toList,
          "oauth_version=\"1.0\"".toList, "oauth_signature_method=\"PLAINTEXT\"".toList,
          "oauth_timestamp=\"1\"".toList, "oauth_nonce=\"n\"".toList,
          "oauth_signature=\"cs%26\"".toList]) := by
  decide +kernel

end Consumer

end OAuth
