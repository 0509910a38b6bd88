import OAuth.Proofs.Independence

/-!
# How parameters are presented

A form may have its fields in any order and spelling, and some of them in the query and others in
the body. None of this is signed: what is signed are the pairs that are read, as a set. Main
statements: `Form.pairs_of_spells`, the pairs of a text are those that its pieces spell, and
`Consumer.sign_of_isRearranged`, two forms with the same pairs get the same signature.
-/

namespace OAuth

/-! ## Spellings -/

namespace Percent

/-- The spellings of bytes: a character for its own ones, a `+` for a space, and escapes with digits
in either case. -/
inductive Spells : Text → List UInt8 → Prop where
  /-- nothing for no bytes -/
  | nil : Spells [] []
  /-- a character for its bytes -/
  | plain {c : Char} {s : Text} {bytes : List UInt8} (hpercent : c ≠ '%') (hplus : c ≠ '+')
      (rest : Spells s bytes) : Spells (c :: s) (String.utf8EncodeChar c ++ bytes)
  /-- a `+` for a space -/
  | plus {s : Text} {bytes : List UInt8} (rest : Spells s bytes) :
      Spells ('+' :: s) (String.utf8EncodeChar ' ' ++ bytes)
  /-- an escape for any byte -/
  | escape {high low : Char} {m n : Nat} {s : Text} {bytes : List UInt8}
      (hhigh : Hex.value? high = some m) (hlow : Hex.value? low = some n)
      (rest : Spells s bytes) : Spells ('%' :: high :: low :: s) (UInt8.ofNat (m * 16 + n) :: bytes)

theorem plusToSpace_of_ne {c : Char} (h : c ≠ '+') : plusToSpace c = c := if_neg h

theorem plusToSpace_digit {c : Char} {n : Nat} (h : Hex.value? c = some n) : plusToSpace c = c := by
  refine plusToSpace_of_ne ?_
  rintro rfl
  cases h

/-- The bytes of a text are those that it spells. -/
theorem bytes_of_spells {s : Text} {bytes : List UInt8} (h : Spells s bytes) :
    Percent.bytes (s.map plusToSpace) = bytes := by
  induction h with
  | nil => rfl
  | plain hpercent hplus rest ih =>
    rw [List.map_cons, plusToSpace_of_ne hplus, bytes_of_ne hpercent, ih]
  | plus rest ih =>
    have hspace : plusToSpace '+' = ' ' := rfl
    rw [List.map_cons, hspace, bytes_of_ne (by decide), ih]
  | escape hhigh hlow rest ih =>
    have hpercent : plusToSpace '%' = '%' := rfl
    rw [List.map_cons, List.map_cons, List.map_cons, hpercent, plusToSpace_digit hhigh,
      plusToSpace_digit hlow]
    simp only [Percent.bytes, ↓reduceIte, hhigh, hlow, ih]

/-- **All spellings of a text are read as that text.** -/
theorem decode_of_spells {s t : Text} (h : Spells s (Utf8.encode t)) : decode s = t := by
  rw [decode, bytes_of_spells h, Utf8.decode_encode]

end Percent

namespace Form

/-- The spellings of a pair: a key and a value with `=` between them, or a bare key for the empty
value. -/
inductive SpellsPair : Text → Pair → Prop where
  /-- a key with a value -/
  | valued {key value : Text} {pair : Pair} (hkey : '=' ∉ key)
      (first : Percent.Spells key (Utf8.encode pair.1))
      (second : Percent.Spells value (Utf8.encode pair.2)) : SpellsPair (key ++ '=' :: value) pair
  /-- a key that stands alone -/
  | bare {segment key : Text} (hkey : '=' ∉ segment)
      (first : Percent.Spells segment (Utf8.encode key)) : SpellsPair segment (key, [])

/-- Whether the pieces of a text spell some pairs; between them there may be empty pieces. -/
def Spells (text : Text) (pairs : List Pair) : Prop := List.Forall₂ SpellsPair (segments text) pairs

theorem pair_of_spellsPair {segment : Text} {pair : Pair} (h : SpellsPair segment pair) :
    Field.pair (readSegment segment) = pair := by
  cases h with
  | valued hkey first second =>
    rw [readSegment, Text.cut?_eq_some.2 ⟨rfl, hkey⟩]
    exact Prod.ext (Percent.decode_of_spells first) (Percent.decode_of_spells second)
  | bare hkey first =>
    rw [readSegment, Text.cut?_eq_none.2 hkey]
    exact Prod.ext (Percent.decode_of_spells first) rfl

/-- **The pairs of a text are those that its pieces spell.** -/
theorem pairs_of_spells {text : Text} {pairs : List Pair} (h : Spells text pairs) :
    (decode text).map Field.pair = pairs := by
  unfold Spells at h
  rw [decode, List.map_map]
  generalize segments text = pieces at h
  induction h with
  | nil => rfl
  | cons first rest ih => exact congrArg₂ List.cons (pair_of_spellsPair first) ih

end Form

namespace Consumer

/-! ## The same pairs at other places -/

/-- The pairs that are read from the query and the body of a request, as they are decoded. -/
def readPairs (r : PlainRequest) : List Pair :=
  (queryFields r ++ bodyFields r).map Form.Field.pair

/-- Forms that have the same pairs, in any order and at either place, and are alike apart from
them. -/
structure IsRearranged (r r' : PlainRequest) : Prop where
  /-- the methods are the same -/
  method : r.method = r'.method
  /-- the URLs are the same before the query -/
  base : (Reference.ofText r.url).base = (Reference.ofText r'.url).base
  /-- the headers are the same -/
  headers : r.headers = r'.headers
  /-- the body is a form -/
  form : Request.hasForm r = true
  /-- no field of the first query has a key that a signing takes off -/
  kept : ∀ key ∈ Reference.keys r.url, key ∉ Key.generated
  /-- nor has a field of the second one -/
  kept' : ∀ key ∈ Reference.keys r'.url, key ∉ Key.generated
  /-- the pairs are the same, in some order -/
  pairs : (readPairs r).Perm (readPairs r')

variable {c : Consumer} {r r' : PlainRequest} {stamp stamp' : Stamp} {pair : Pair}

/-- Where no field is taken off, the request stays as it is. -/
theorem strip_eq_self (h : ∀ key ∈ Reference.keys r.url, key ∉ Key.generated) : strip r = r := by
  rw [strip_eq, stripUrl, hasGenerated_eq_false.2 h]
  rfl

/-- What a signing has done that takes nothing off. -/
theorem sign_eq_ok_of_kept {written : Text} {s : PlainRequest}
    (h : ∀ key ∈ Reference.keys r.url, key ∉ Key.generated) :
    c.sign stamp r = (.ok written, s) ↔ c.hasCredentials = true ∧
      ∃ signature, c.signature stamp r = .ok signature ∧
        c.placement.write signature r (c.signedParams stamp r) = (written, s) := by
  rw [sign_eq_ok, strip_eq_self h]

/-- Why a signing has failed that takes nothing off. -/
theorem sign_eq_error_of_kept {error : Error} {s : PlainRequest}
    (h : ∀ key ∈ Reference.keys r.url, key ∉ Key.generated) :
    c.sign stamp r = (.error error, s) ↔
      c.hasCredentials = false ∧ error = .credentialsMissing ∧ s = r ∨
        c.hasCredentials = true ∧ ∃ fault, c.signature stamp r = .error fault ∧
          error = .signing fault ∧ s = r := by
  rw [sign_eq_error, strip_eq_self h]

/-- The written pairs of query and body are those that are read, put into written form. -/
theorem map_encode_readPairs (r : PlainRequest) :
    (readPairs r).map Pair.encode = queryPairs r ++ bodyPairs r := by
  rw [readPairs, List.map_map, List.map_append]
  rfl

/-- The same is collected, from wherever. -/
theorem IsRearranged.mem_collect (h : IsRearranged r r') :
    pair ∈ c.collect r ↔ pair ∈ c.collect r' := by
  have hheader : headerParams r = headerParams r' := by
    have hsame : Request.header? r authorizationHeader = Request.header? r' authorizationHeader :=
      congrArg (HeaderList.find? · authorizationHeader) h.headers
    rw [headerParams, hsame, headerParams]
  have hplaces : pair ∈ queryPairs r ++ bodyPairs r ↔ pair ∈ queryPairs r' ++ bodyPairs r' := by
    rw [← map_encode_readPairs, ← map_encode_readPairs]
    exact (h.pairs.map Pair.encode).mem_iff
  rw [List.mem_append, List.mem_append] at hplaces
  rw [Consumer.mem_collect, Consumer.mem_collect, hheader, hplaces]

/-- **Forms with the same pairs have the same signature**, or none for faults that are alike. -/
theorem IsRearranged.signature (h : IsRearranged r r') (htidy : Url.IsTidy r.url)
    (htidy' : Url.IsTidy r'.url) (hfixed : c.IsFixed stamp stamp') :
    SameResult (SigningFault.IsSameKindOrNobody (Reference.ofText r.url).base) (c.signature stamp r)
      (c.signature stamp' r') := by
  refine signature_sameResult (SigningFault.IsSameKindOrNobody.refl _) h.method
    (BaseString.normalizeUrl_sameResult htidy htidy' h.base) ?_
  refine BaseString.filter_isSigned_eq_iff.2 fun pair _ _ => ?_
  exact hfixed.mem_signedParams fun value => h.mem_collect

/-- **How parameters are presented does not count**: forms whose queries and bodies together have
the same pairs, in any order and at either place, are signed with the same signature, or neither is,
for errors that are alike. Nor does it count how the pairs are spelled, since the pairs that are
read from a text are those that its pieces spell. -/
theorem sign_of_isRearranged (h : IsRearranged r r') (htidy : Url.IsTidy r.url)
    (htidy' : Url.IsTidy r'.url) (hfixed : c.IsFixed stamp stamp') :
    (∀ written s, c.sign stamp r = (.ok written, s) → ∃ signature written' s',
      c.sign stamp' r' = (.ok written', s') ∧
        c.signature stamp r = .ok signature ∧ c.signature stamp' r' = .ok signature ∧
        c.placement.write signature r (c.signedParams stamp r) = (written, s) ∧
        c.placement.write signature r' (c.signedParams stamp' r') = (written', s')) ∧
      (∀ error s, c.sign stamp r = (.error error, s) → ∃ error' s',
        c.sign stamp' r' = (.error error', s') ∧
          (error = .credentialsMissing ∧ error' = .credentialsMissing ∨ ∃ fault fault',
            error = .signing fault ∧ error' = .signing fault' ∧
              fault.IsSameKindOrNobody (Reference.ofText r.url).base fault')) ∧
      ∀ text pairs, Form.Spells text pairs → (Form.decode text).map Form.Field.pair = pairs := by
  have hsame := h.signature htidy htidy' hfixed
  refine ⟨?_, ?_, fun text pairs hspells => Form.pairs_of_spells hspells⟩
  · intro written s hsign
    obtain ⟨hcredentials, signature, hsignature, hwrite⟩ := (sign_eq_ok_of_kept h.kept).1 hsign
    rw [hsignature] at hsame
    have hsignature' := hsame.eq_ok
    cases hwrite' : c.placement.write signature r' (c.signedParams stamp' r') with
    | mk written' s' =>
      have hsign' := (sign_eq_ok_of_kept h.kept').2 ⟨hcredentials, signature, hsignature', hwrite'⟩
      exact ⟨signature, written', s', hsign', hsignature, hsignature', hwrite, hwrite'⟩
  · intro error s hsign
    rcases (sign_eq_error_of_kept h.kept).1 hsign with ⟨hnone, rfl, -⟩ |
      ⟨hcredentials, fault, hfault, rfl, -⟩
    · exact ⟨_, _, (sign_eq_error_of_kept h.kept').2 (.inl ⟨hnone, rfl, rfl⟩), .inl ⟨rfl, rfl⟩⟩
    · rw [hfault] at hsame
      obtain ⟨fault', hfault', hlike⟩ := hsame.eq_error
      have hsign' := (sign_eq_error_of_kept h.kept').2
        (.inr ⟨hcredentials, fault', hfault', rfl, rfl⟩)
      exact ⟨_, _, hsign', .inr ⟨fault, fault', rfl, rfl, hlike⟩⟩

/-- A form with two fields in its query, one in its body, and a fragment. -/
def arrangedForm : PlainRequest :=
  PlainRequest.withForm { method := "POST".toList, url := "x://h/p?b=%7E&a%20=1#f".toList }
    [("flag".toList, [])]

/-- The same fields in other spellings, in another order and at other places, with empty pieces. -/
def rearrangedForm : PlainRequest :=
  PlainRequest.withBody { method := "POST".toList, url := "x://h/p?&flag&&".toList }
    Form.mediaType (Utf8.encode "a+=%31&&%62=%7e".toList)

theorem sign_of_isRearranged_spellings : ∃ signature written written' s s',
    (pinned .header).sign ⟨"a".toList, "2".toList⟩ arrangedForm = (.ok written, s) ∧
      (pinned .header).sign ⟨"b".toList, "3".toList⟩ rearrangedForm = (.ok written', s') ∧
      (pinned .header).signature ⟨"a".toList, "2".toList⟩ arrangedForm = .ok signature ∧
      (pinned .header).signature ⟨"b".toList, "3".toList⟩ rearrangedForm = .ok signature := by
  have hrearranged : IsRearranged arrangedForm rearrangedForm :=
    { method := by decide +kernel
      base := by decide +kernel
      headers := by decide +kernel
      form := by decide +kernel
      kept := by decide +kernel
      kept' := by decide +kernel
      pairs := by decide +kernel }
  have hfixed : (pinned .header).IsFixed ⟨"a".toList, "2".toList⟩ ⟨"b".toList, "3".toList⟩ :=
    .inr ⟨by decide, by decide⟩
  have hurl : (BaseString.normalizeUrl (strip arrangedForm).url).isOk = true := by decide +kernel
  obtain ⟨written, s, hsign⟩ := exists_sign (c := pinned .header) (by decide) rfl hurl
    ⟨"a".toList, "2".toList⟩
  obtain ⟨signature, written', s', hsign', hsignature, hsignature', -, -⟩ :=
    (sign_of_isRearranged hrearranged (by decide) (by decide) hfixed).1 written s hsign
  exact ⟨signature, written, written', s, s', hsign, hsign', hsignature, hsignature'⟩

end Consumer

end OAuth
