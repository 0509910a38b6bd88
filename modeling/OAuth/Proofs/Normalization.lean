import Mathlib.Data.List.Dedup
import OAuth.Proofs.Signing
import OAuth.Proofs.Utf8

/-!
# The normal form of parameters

The parameters of a request that nothing of the protocol is on yet are signed as a form: the pairs
of the query, those of the body and those of the protocol, in the order of their bytes. The set of
parameters has a pair once, however often it occurs. Main statement:
`Consumer.paramsText_signedParams`.
-/

namespace OAuth

/-! ## Pairs in the order of their bytes -/

namespace Pair

/-- By the bytes of the keys, then by those of the values. -/
def Precedes (a b : Pair) : Prop :=
  Utf8.Precedes (Utf8.encode a.1) (Utf8.encode b.1) ∨
    a.1 = b.1 ∧ Utf8.Precedes (Utf8.encode a.2) (Utf8.encode b.2)

instance (a b : Pair) : Decidable (a.Precedes b) := inferInstanceAs (Decidable (_ ∨ _ ∧ _))

theorem precedes_iff {a b : Pair} : a.Precedes b ↔ a.Before b := by
  rw [Precedes, Utf8.precedes_encode_iff, Utf8.precedes_encode_iff, Before]

/-- Whether a pair may stand before another: equal pairs may stand in any order. -/
def mayPrecede (a b : Pair) : Bool := !decide (b.Precedes a)

theorem mayPrecede_iff {a b : Pair} : mayPrecede a b = true ↔ ¬ b.Before a := by
  simp [mayPrecede, precedes_iff]

/-- Pairs in the order of their bytes, each as often as it occurs. -/
def sort (pairs : List Pair) : List Pair := pairs.mergeSort mayPrecede

theorem sort_perm (pairs : List Pair) : (sort pairs).Perm pairs := List.mergeSort_perm pairs _

theorem pairwise_sort (pairs : List Pair) :
    (sort pairs).Pairwise fun a b => mayPrecede a b = true := by
  refine List.pairwise_mergeSort (fun a b c hab hbc => ?_) (fun a b => ?_) pairs
  · rw [mayPrecede_iff] at *
    -- from the last pair before the first, the one between them would be before one of them
    intro hca
    rcases before_total a b with h | rfl | h
    · exact hbc (before_trans hca h)
    · exact hbc hca
    · exact hab h
  · rw [Bool.or_eq_true, mayPrecede_iff, mayPrecede_iff, ← not_and_or]
    rintro ⟨hba, hab⟩
    exact before_irrefl a (before_trans hab hba)

/-- **There is one order for some pairs.** -/
theorem sort_eq {pairs sorted : List Pair} (hperm : sorted.Perm pairs)
    (hsorted : sorted.Pairwise fun a b => mayPrecede a b = true) : sort pairs = sorted := by
  refine List.Perm.eq_of_pairwise (fun a b _ _ hab hba => ?_) (pairwise_sort pairs) hsorted
    ((sort_perm pairs).trans hperm.symm)
  rw [mayPrecede_iff] at hab hba
  rcases before_total a b with h | h | h
  · exact absurd h hba
  · exact h
  · exact absurd h hab

/-- The pairs of a set are those that occur in it, without repetition. -/
theorem sort_dedup {pairs : List Pair} {params : Params} (h : ∀ pair, pair ∈ params ↔ pair ∈ pairs) :
    sort pairs.dedup = params.pairs := by
  have hnodup : params.pairs.Nodup := params.sorted.imp fun hab heq => by
    subst heq
    exact before_irrefl _ hab
  refine sort_eq ?_ (params.sorted.imp fun {a b} hab => mayPrecede_iff.2 fun hba => ?_)
  · refine (List.perm_ext_iff_of_nodup hnodup pairs.nodup_dedup).2 fun pair => ?_
    rw [List.mem_dedup]
    exact h pair
  · exact before_irrefl a (before_trans hab hba)

end Pair

namespace BaseString

/-- The text of some pairs in the order of their bytes, each as often as it occurs. -/
def normalText (pairs : List Pair) : Text :=
  Text.join ['&'] ((Pair.sort pairs).map Pair.queryText)

/-- **A pair that occurs again is seen** in the text of the pairs. -/
theorem normalText_dedup_eq_iff {pairs : List Pair} (h : ∀ pair ∈ pairs, pair.IsWritten) :
    normalText pairs.dedup = normalText pairs ↔ pairs.Nodup := by
  constructor
  · intro htext
    have hsort : Pair.sort pairs.dedup = Pair.sort pairs := by
      refine Form.join_queryText_injective (fun pair hpair => ?_) (fun pair hpair => ?_) htext
      · exact h pair (List.mem_dedup.1 ((Pair.sort_perm _).mem_iff.1 hpair))
      · exact h pair ((Pair.sort_perm _).mem_iff.1 hpair)
    have hperm : pairs.dedup.Perm pairs :=
      (Pair.sort_perm _).symm.trans (hsort ▸ Pair.sort_perm pairs)
    exact hperm.nodup_iff.1 pairs.nodup_dedup
  · intro hnodup
    rw [hnodup.dedup]

/-- The text of a set is that of the pairs in it that count. -/
theorem paramsText_eq_normalText {params : Params} {pairs : List Pair}
    (h : ∀ pair, pair ∈ params.filter isSigned ↔ pair ∈ pairs) :
    paramsText params = normalText pairs.dedup := by
  rw [normalText, Pair.sort_dedup h]
  rfl

end BaseString

/-! ## Requests with nothing of the protocol on them -/

namespace Consumer

/-- Parameters that settle what makes a signing unlike any other, and nothing else. -/
def pinnedBy (pin : Stamp) : Params :=
  .ofList [(Key.nonce, Percent.encode pin.nonce), (Key.timestamp, Percent.encode pin.timestamp)]

/-- Requests with nothing of the protocol on them. -/
structure IsFresh (r : PlainRequest) : Prop where
  /-- there is no authorization header -/
  header : Request.header? r authorizationHeader = none
  /-- no field of the query or the body has a key of the protocol -/
  fields : ∀ field ∈ queryFields r ++ bodyFields r,
    field.1 ≠ Key.realm ∧ Key.isReserved field.1 = false

instance (r : PlainRequest) : Decidable (IsFresh r) :=
  decidable_of_iff (Request.header? r authorizationHeader = none ∧
    ∀ field ∈ queryFields r ++ bodyFields r, field.1 ≠ Key.realm ∧ Key.isReserved field.1 = false)
    ⟨fun h => ⟨h.1, h.2⟩, fun h => ⟨h.header, h.fields⟩⟩

/-- The pairs of a request and those of the protocol, as often as they occur. -/
def occurrences (c : Consumer) (stamp : Stamp) (r : PlainRequest) : List Pair :=
  queryPairs r ++ bodyPairs r ++ (c.protocolValues stamp).map Pair.encode

variable {c : Consumer} {r : PlainRequest} {pin stamp : Stamp} {pair : Pair}

theorem isWritten_of_mem_occurrences (h : pair ∈ c.occurrences stamp r) : pair.IsWritten := by
  rw [occurrences, List.mem_append, List.mem_append] at h
  rcases h with (h | h) | h
  · exact isWritten_of_mem_queryPairs h
  · exact isWritten_of_mem_bodyPairs h
  · obtain ⟨value, -, rfl⟩ := List.mem_map.1 h
    exact Pair.isWritten_encode value

/-- Of an earlier signing there is nothing to take off. -/
theorem IsFresh.strip_eq (h : IsFresh r) : strip r = r := by
  have hlacks : hasGenerated r.url = false := by
    have all : ∀ key ∈ Key.generated, Key.isReserved key = true := by decide
    rw [hasGenerated_eq_false]
    intro key hkey hgenerated
    obtain ⟨field, hfield, rfl⟩ := List.mem_map.1 hkey
    have hreserved := (h.fields field (List.mem_append_left _ hfield)).2
    rw [all _ hgenerated] at hreserved
    cases hreserved
  rw [Consumer.strip_eq, stripUrl, hlacks]
  rfl

/-- A pair of the query or the body has no key of the protocol. -/
theorem IsFresh.ne_of_mem (h : IsFresh r) (hpair : pair ∈ queryPairs r ∨ pair ∈ bodyPairs r)
    {key : Text} (hkey : Authorization.IsKey key)
    (hprotocol : key = Key.realm ∨ Key.isReserved key = true) : pair.1 ≠ key := by
  have hfield : ∃ field ∈ queryFields r ++ bodyFields r, field.pair.encode = pair := by
    rw [← List.mem_map, List.map_append, List.mem_append]
    exact hpair
  obtain ⟨field, hfield, rfl⟩ := hfield
  obtain ⟨hrealm, hreserved⟩ := h.fields field hfield
  intro hsame
  obtain rfl : field.1 = key := (Key.encode_eq_iff hkey).1 hsame
  rcases hprotocol with hsame | hyes
  · exact hrealm hsame
  · rw [hyes] at hreserved
    cases hreserved

theorem mem_pinnedBy : pair ∈ pinnedBy pin ↔ pair = (Key.nonce, Percent.encode pin.nonce) ∨
    pair = (Key.timestamp, Percent.encode pin.timestamp) := by
  rw [pinnedBy, Params.mem_ofList, List.mem_pair]

theorem isPinned_of_pinnedBy (h : c.additional = pinnedBy pin) : c.IsPinned where
  nonce := Params.contains_iff.2 ⟨Percent.encode pin.nonce, h ▸ mem_pinnedBy.2 (.inl rfl)⟩
  timestamp := Params.contains_iff.2 ⟨Percent.encode pin.timestamp, h ▸ mem_pinnedBy.2 (.inr rfl)⟩

/-- **What is pinned by a stamp is what it settles of the protocol's values.** -/
theorem mem_pinnedBy_iff (c : Consumer) : pair ∈ pinnedBy pin ↔
    ∃ value ∈ c.protocolValues pin, (value.1 = Key.nonce ∨ value.1 = Key.timestamp) ∧
      pair = Pair.encode value := by
  have hnonce : (Key.nonce, pin.nonce) ∈ c.protocolValues pin := by simp [protocolValues]
  have htimestamp : (Key.timestamp, pin.timestamp) ∈ c.protocolValues pin := by
    simp [protocolValues]
  have hone := nodup_protocolValues c pin
  rw [mem_pinnedBy, ← Key.encode_pair (isKey_of_mem_protocolKeys (mem_protocolKeys_of_mem hnonce)),
    ← Key.encode_pair (isKey_of_mem_protocolKeys (mem_protocolKeys_of_mem htimestamp))]
  constructor
  · rintro (rfl | rfl)
    · exact ⟨_, hnonce, .inl rfl, rfl⟩
    · exact ⟨_, htimestamp, .inr rfl, rfl⟩
  · rintro ⟨value, hvalue, hkey | hkey, rfl⟩
    · rw [List.inj_on_of_nodup_map hone hvalue hnonce hkey]
      exact .inl rfl
    · rw [List.inj_on_of_nodup_map hone hvalue htimestamp hkey]
      exact .inr rfl

/-- **What is collected of a fresh request is in its query or its body**, or the consumer's own. -/
theorem IsFresh.mem_collect (h : IsFresh r) : pair ∈ c.collect r ↔
    pair ∈ c.additional ∨ pair ∈ queryPairs r ∨ pair ∈ bodyPairs r := by
  have hheader : pair ∉ headerParams r := by
    rw [mem_headerParams, elements, h.header]
    rintro ⟨hmem, -⟩
    exact List.not_mem_nil hmem
  rw [Consumer.mem_collect, or_iff_right hheader]

/-- A key of the protocol that is not pinned is not collected. -/
theorem IsFresh.contains_collect (h : IsFresh r) (hpin : c.additional = pinnedBy pin) {key : Text}
    (hkey : key ∈ protocolKeys) (hnonce : key ≠ Key.nonce) (htimestamp : key ≠ Key.timestamp) :
    (c.collect r).contains key = false := by
  have all : ∀ key ∈ protocolKeys, Key.isReserved key = true := by decide
  rw [← Bool.not_eq_true, Params.contains_iff]
  rintro ⟨value, hvalue⟩
  rcases h.mem_collect.1 hvalue with hadd | hplaces
  · rw [hpin, mem_pinnedBy] at hadd
    rcases hadd with heq | heq
    · exact hnonce (congrArg Prod.fst heq)
    · exact htimestamp (congrArg Prod.fst heq)
  · exact h.ne_of_mem hplaces (isKey_of_mem_protocolKeys hkey) (.inr (all key hkey)) rfl

/-- **What counts of the parameters that are signed is what occurs.** -/
theorem mem_filter_isSigned (h : IsFresh r) (hpin : c.additional = pinnedBy pin) :
    pair ∈ (c.signedParams stamp r).filter BaseString.isSigned ↔ pair ∈ c.occurrences pin r := by
  have hpinned := isPinned_of_pinnedBy hpin
  rw [Params.mem_filter, mem_signedParams, BaseString.isSigned_iff, h.mem_collect, occurrences,
    List.mem_append, List.mem_append, List.mem_map]
  constructor
  · rintro ⟨⟨-, (hadd | hquery | hbody) | ⟨hlacks, value, hvalue, rfl⟩⟩, -⟩
    · rw [hpin, mem_pinnedBy_iff c] at hadd
      obtain ⟨value, hvalue, -, rfl⟩ := hadd
      exact .inr ⟨value, hvalue, rfl⟩
    · exact .inl (.inl hquery)
    · exact .inl (.inr hbody)
    · -- what completes the parameters is not pinned, so the pin would complete them alike
      have hne : ∀ key, c.additional.contains key = true → value.1 ≠ key := by
        rintro key hkey rfl
        rw [fst_encode_of_mem hvalue, Consumer.contains_collect hkey r] at hlacks
        cases hlacks
      exact .inr ⟨value, mem_protocolValues_of_ne hvalue (hne _ hpinned.nonce)
        (hne _ hpinned.timestamp) pin, rfl⟩
  · rintro (hplaces | ⟨value, hvalue, rfl⟩)
    · have hsignature : pair.1 ≠ Key.signature :=
        h.ne_of_mem hplaces Key.isKey_signature (.inr (by decide))
      have hrealm : pair.1 ≠ Key.realm := h.ne_of_mem hplaces Key.isKey_realm (.inl rfl)
      exact ⟨⟨hsignature, .inl (.inr hplaces)⟩, hsignature, hrealm⟩
    · have all : ∀ key ∈ protocolKeys, key ≠ Key.signature ∧ key ≠ Key.realm := by decide
      have hkey := mem_protocolKeys_of_mem hvalue
      obtain ⟨hsignature, hrealm⟩ := all value.1 hkey
      rw [fst_encode_of_mem hvalue]
      refine ⟨⟨hsignature, ?_⟩, hsignature, hrealm⟩
      by_cases hnonce : value.1 = Key.nonce
      · exact .inl (.inl (hpin ▸ (mem_pinnedBy_iff c).2 ⟨value, hvalue, .inl hnonce, rfl⟩))
      by_cases htimestamp : value.1 = Key.timestamp
      · exact .inl (.inl (hpin ▸ (mem_pinnedBy_iff c).2 ⟨value, hvalue, .inr htimestamp, rfl⟩))
      · exact .inr ⟨h.contains_collect hpin hkey hnonce htimestamp, value,
          mem_protocolValues_of_ne hvalue hnonce htimestamp stamp, rfl⟩

/-- **The parameters are signed in their normal form**: the pairs of the query, of the body and of
the protocol, each once, in the order of their bytes. So the text of all that occurs is signed if,
and only if, nothing occurs again. -/
theorem paramsText_signedParams (hpin : c.additional = pinnedBy pin) (hfresh : IsFresh r)
    (stamp : Stamp) :
    let pairs := c.occurrences pin r
    let text := BaseString.paramsText (c.signedParams stamp (strip r))
    text = BaseString.normalText pairs.dedup ∧
      (text = BaseString.normalText pairs ↔ pairs.Nodup) ∧
      (c.method ≠ .plaintext → c.signature stamp (strip r) =
        (BaseString.normalizeUrl r.url).bind fun normal =>
          c.signer.signBase (BaseString.join r.method normal text)) := by
  intro pairs text
  have htext : text = BaseString.normalText pairs.dedup := by
    refine BaseString.paramsText_eq_normalText fun pair => ?_
    rw [hfresh.strip_eq]
    exact mem_filter_isSigned hfresh hpin
  refine ⟨htext, ?_, fun hmethod => ?_⟩
  · rw [htext]
    exact BaseString.normalText_dedup_eq_iff fun pair hpair => isWritten_of_mem_occurrences hpair
  · have hsignature : c.signature stamp (strip r) =
        c.signer.sign r.method r.url (c.signedParams stamp (strip r)) := by
      rw [hfresh.strip_eq]
      rfl
    rw [hsignature, Signer.sign_of_ne hmethod, BaseString.make_bind]

/-- A consumer that settles what makes its signings unlike any other. -/
def settledConsumer : Consumer :=
  { key := "ck".toList, secret := "cs".toList, additional := pinnedBy ⟨"n".toList, "1".toList⟩ }

/-- A form whose query has a field that is in the body, too. -/
def sharedFieldForm : PlainRequest :=
  PlainRequest.withForm { method := "POST".toList, url := "x://h/?z=%7e+&a".toList }
    [("a".toList, []), ("a".toList, "/".toList)]

theorem paramsText_signedParams_sharedField :
    settledConsumer.additional = pinnedBy ⟨"n".toList, "1".toList⟩ ∧ IsFresh sharedFieldForm ∧
      BaseString.paramsText (settledConsumer.signedParams ⟨"m".toList, "2".toList⟩
          (strip sharedFieldForm)) =
        ("a=&a=%2F&oauth_consumer_key=ck&oauth_nonce=n&oauth_signature_method=HMAC-SHA1".toList ++
          "&oauth_timestamp=1&oauth_version=1.0&z=~%20".toList) := by
  have hfresh : IsFresh sharedFieldForm := by decide +kernel
  obtain ⟨htext, -, -⟩ :=
    paramsText_signedParams (c := settledConsumer) rfl hfresh ⟨"m".toList, "2".toList⟩
  refine ⟨rfl, hfresh, ?_⟩
  have hsort : Pair.sort (settledConsumer.occurrences ⟨"n".toList, "1".toList⟩
      sharedFieldForm).dedup = [("a".toList, []), ("a".toList, "%2F".toList),
        (Key.consumerKey, "ck".toList), (Key.nonce, "n".toList),
        (Key.signatureMethod, "HMAC-SHA1".toList), (Key.timestamp, "1".toList),
        (Key.version, "1.0".toList), ("z".toList, "~%20".toList)] :=
    Pair.sort_eq (by decide +kernel) (by decide +kernel)
  rw [htext, BaseString.normalText, hsort]
  decide +kernel

/-- A request with a field that occurs again. -/
def repeatedFieldRequest : PlainRequest := .get "http://h/?a=1&a=1".toList

/-- The text of the parameters of a request with a field that occurs again. -/
def signedOnceText : Text :=
  "a=1&oauth_consumer_key=ck&oauth_nonce=n&oauth_signature_method=HMAC-SHA1".toList ++
    "&oauth_timestamp=1&oauth_version=1.0".toList

/-- **A field that occurs again is not signed again.** -/
theorem paramsText_repeatedField :
    settledConsumer.additional = pinnedBy ⟨"n".toList, "1".toList⟩ ∧
      IsFresh repeatedFieldRequest ∧
      BaseString.paramsText (settledConsumer.signedParams ⟨"m".toList, "2".toList⟩
        (strip repeatedFieldRequest)) = signedOnceText ∧
      BaseString.normalText (settledConsumer.occurrences ⟨"n".toList, "1".toList⟩
        repeatedFieldRequest) = "a=1&".toList ++ signedOnceText ∧
      signedOnceText ≠ "a=1&".toList ++ signedOnceText := by
  have hsort : Pair.sort (settledConsumer.occurrences ⟨"n".toList, "1".toList⟩
      repeatedFieldRequest) = [("a".toList, "1".toList), ("a".toList, "1".toList),
        (Key.consumerKey, "ck".toList), (Key.nonce, "n".toList),
        (Key.signatureMethod, "HMAC-SHA1".toList), (Key.timestamp, "1".toList),
        (Key.version, "1.0".toList)] :=
    Pair.sort_eq (by decide +kernel) (by decide +kernel)
  refine ⟨rfl, by decide +kernel, by decide +kernel, ?_, by decide⟩
  rw [BaseString.normalText, hsort]
  decide +kernel

end Consumer

end OAuth
