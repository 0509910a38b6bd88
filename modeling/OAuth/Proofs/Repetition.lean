import OAuth.Proofs.Signing

/-!
# Writing what was written

What a signing writes is taken off before the next one, but for fields of the query that the
request could have had from the start. So the next one writes less behind the query
(`Placement.queryPairs_again`), and the one after that takes off exactly what was written
(`Consumer.strip_signBehind_again`).
-/

namespace OAuth

/-- A value that is set again changes nothing. -/
theorem HeaderList.set_set (headers : HeaderList) (name value : Text) :
    (headers.set name value).set name value = headers.set name value := by
  induction headers with
  | nil => simp [set, Text.sameLetters]
  | cons header rest ih =>
    obtain ⟨key, old⟩ := header
    by_cases h : Text.sameLetters key name = true <;> simp [set, h, ih]

theorem PlainRequest.withHeader_withHeader (r : PlainRequest) (name value : Text) :
    Request.withHeader (Request.withHeader r name value) name value =
      Request.withHeader r name value := by
  have hset := r.headers.set_set name value
  exact congrArg (fun headers => { r with headers }) hset

namespace Placement

variable {signature : Text} {params : Params} {carried : List Text}

/-- The keys that a query carries after a signature was put behind it and taken off again. -/
def keptKeys (signature : Text) (params : Params) (carried : List Text) : List Text :=
  carried ++ ((queryPairs signature params carried).filter fun pair =>
    !Key.isGenerated pair.1).map Prod.fst

theorem mem_keptKeys {key : Text} : key ∈ keptKeys signature params carried ↔
    key ∈ carried ∨ key ∈ queryKeys params carried ∧ Key.isGenerated key = false := by
  have hfilter : ((queryPairs signature params carried).filter fun pair =>
      !Key.isGenerated pair.1).map Prod.fst =
        ((queryPairs signature params carried).map Prod.fst).filter fun key =>
          !Key.isGenerated key := by
    rw [List.filter_map]
    rfl
  rw [keptKeys, hfilter, List.mem_append, List.mem_filter, mem_map_fst_queryPairs,
    Bool.not_eq_true']
  refine or_congr_right ?_
  constructor
  · rintro ⟨rfl | hkey, hgenerated⟩
    · have hsignature : Key.isGenerated Key.signature = true :=
        Key.isGenerated_iff.2 List.mem_cons_self
      rw [hsignature] at hgenerated
      cases hgenerated
    · exact ⟨hkey, hgenerated⟩
  · rintro ⟨hkey, hgenerated⟩
    exact ⟨.inr hkey, hgenerated⟩

/-- A key that is not taken off is carried after it was written. -/
theorem mem_keptKeys_of_contains {key : Text} (hkey : key ∈ Key.optional)
    (hgenerated : Key.isGenerated key = false) (hcontains : params.contains key = true) :
    key ∈ keptKeys signature params carried := by
  rw [mem_keptKeys]
  by_cases hcarried : key ∈ carried
  · exact .inl hcarried
  · refine .inr ⟨?_, hgenerated⟩
    rw [queryKeys, List.mem_append, List.mem_filter]
    exact .inl ⟨hkey, by simp [hcontains, hcarried]⟩

/-- Of the keys that are put behind a query, those that are taken off are put there again. -/
theorem queryKeys_again :
    queryKeys params (keptKeys signature params carried) =
      (queryKeys params carried).filter Key.isGenerated := by
  have hsame : ∀ key, Key.isGenerated key = true →
      (key ∈ keptKeys signature params carried ↔ key ∈ carried) := by
    intro key hkey
    rw [mem_keptKeys, hkey]
    simp
  have hmandatory : ∀ key ∈ Key.mandatory, Key.isGenerated key = true := by decide
  rw [queryKeys, queryKeys, List.filter_append, List.filter_filter, List.filter_filter]
  congr 1
  · apply List.filter_congr
    intro key hkey
    cases hgenerated : Key.isGenerated key with
    | true => simp [hsame key hgenerated]
    | false =>
      -- such a key was written if there was a value for it, and then it is carried by now
      have hin : params.contains key = true → key ∈ keptKeys signature params carried :=
        fun hcontains => mem_keptKeys_of_contains hkey hgenerated hcontains
      simpa using hin
  · apply List.filter_congr
    intro key hkey
    have hgenerated := hmandatory key hkey
    simp [hgenerated, hsame key hgenerated]

/-- **Of what is put behind a query, what is taken off is put there again.** -/
theorem queryPairs_again :
    queryPairs signature params (keptKeys signature params carried) =
      (queryPairs signature params carried).filter fun pair => Key.isGenerated pair.1 := by
  have hsignature : Key.isGenerated (signaturePair signature).1 = true :=
    Key.isGenerated_iff.2 List.mem_cons_self
  rw [queryPairs, queryKeys_again, queryPairs, List.filter_cons, if_pos hsignature,
    filter_flatMap_queryPairs]

end Placement

namespace Consumer

variable {params : Params}

/-- Taking off changes nothing where it was done before. -/
theorem strip_withHeader (r : PlainRequest) (name value : Text) :
    strip (Request.withHeader (strip r) name value) = Request.withHeader (strip r) name value := by
  have hurl : stripUrl (strip r).url = (strip r).url := by
    rw [strip_eq]
    exact stripUrl_stripUrl r.url
  rw [strip_eq]
  exact congrArg (fun url => { Request.withHeader (strip r) name value with url }) hurl

/-! ## Behind the query -/

/-- The keys that a URL carries are those of the pairs of its query. -/
theorem carriedKeys_url (r : PlainRequest) :
    Placement.carriedKeys r.url = (queryPairs r).map Prod.fst := by
  rw [Placement.carriedKeys, Reference.keys, queryPairs, List.map_map, List.map_map]
  rfl

/-- Fields are taken off by key, and so are their pairs. -/
theorem isGenerated_encode (key : Text) : Key.isGenerated (Percent.encode key) =
    Key.isGenerated key := by
  have hiff : Percent.encode key ∈ Key.generated ↔ key ∈ Key.generated := by
    constructor
    · intro hmem
      have hsame : key = Percent.encode key :=
        (Key.encode_eq_iff (Key.isKey_of_mem_generated hmem)).1 rfl
      exact hsame ▸ hmem
    · intro hmem
      rw [Key.encode_eq_self (Key.isKey_of_mem_generated hmem)]
      exact hmem
  rw [Bool.eq_iff_iff, Key.isGenerated_iff, Key.isGenerated_iff]
  exact hiff

theorem queryFields_strip (r : PlainRequest) :
    queryFields (strip r) = (queryFields r).filter fun field => !Key.isGenerated field.1 := by
  rw [strip_eq]
  exact fields_stripUrl r.url

theorem queryPairs_strip (r : PlainRequest) :
    queryPairs (strip r) = (queryPairs r).filter fun pair => !Key.isGenerated pair.1 := by
  rw [queryPairs, queryFields_strip, queryPairs, List.filter_map]
  refine congrArg _ (List.filter_congr fun field _ => ?_)
  have hkey : (field.pair.encode).1 = Percent.encode field.1 := rfl
  rw [Function.comp_apply, hkey, isGenerated_encode]

/-- The URL that is signed behind its query has a field to take off. -/
theorem hasGenerated_signedUrl {params : Params} (h : params.IsReadable) (url signature : Text) :
    hasGenerated (Placement.signedUrl url signature params) = true := by
  have hmem : Key.signature ∈ Reference.keys (Placement.signedUrl url signature params) := by
    rw [Reference.keys, Placement.fields_signedUrl h, List.map_append, List.mem_append,
      Placement.queryPairs, List.map_cons, Placement.field_signaturePair]
    exact .inr List.mem_cons_self
  rw [hasGenerated, List.any_eq_true]
  exact ⟨Key.signature, hmem, by decide⟩

/-- A form of fields to take off has no segment that is kept. -/
theorem isKept_of_mem_segments {pairs : List Pair} (hwritten : ∀ pair ∈ pairs, pair.IsWritten)
    (hpairs : ∀ pair ∈ pairs, Key.isGenerated pair.1 = true) :
    ∀ segment ∈ Form.segments (Text.join ['&'] (pairs.map Pair.queryText)),
      Reference.isKept Key.generated segment = false := by
  intro segment hsegment
  have hfield := List.mem_map_of_mem (f := Form.readSegment) hsegment
  rw [← Form.decode, Form.decode_join_queryText hwritten, List.mem_map] at hfield
  obtain ⟨pair, hpair, hread⟩ := hfield
  have hdecoded : Percent.encode (Percent.decode (Form.segmentKey segment)) = pair.1 := by
    rw [← Form.readSegment_fst, ← hread]
    exact Percent.encode_decode (hwritten pair hpair).1
  have hkey : Key.isGenerated (Percent.decode (Form.segmentKey segment)) = true := by
    rw [← isGenerated_encode, hdecoded]
    exact hpairs pair hpair
  rw [Reference.isKept, Bool.not_eq_false']
  exact hkey

/-- **What is put behind a URL and taken off again leaves the URL as it was**, if it was taken off
before. -/
theorem stripUrl_signedUrl_stripUrl {params : Params} (h : params.IsReadable) {url : Text}
    (hurl : hasGenerated url = true) {signature : Text}
    (hpairs : ∀ pair ∈ Placement.queryPairs signature params (Placement.carriedKeys (stripUrl url)),
      Key.isGenerated pair.1 = true) :
    stripUrl (Placement.signedUrl (stripUrl url) signature params) = stripUrl url := by
  have hparts : Reference.ofText (stripUrl url) =
      (Reference.ofText url).withoutKeys Key.generated := by
    rw [stripUrl, if_pos hurl, Reference.ofText_removeKeys]
  have hbare : Placement.bareUrl (stripUrl url) = stripUrl url := by
    have hnot : Key.signature ∉ Placement.carriedKeys (stripUrl url) := by
      rw [Placement.mem_carriedKeys Key.isKey_signature]
      exact fun hmem => not_mem_generated hmem List.mem_cons_self
    rw [Placement.bareUrl, if_neg (by simpa using hnot)]
  have hsegments := isKept_of_mem_segments
    (fun pair hpair => Placement.isWritten_of_mem_queryPairs h hpair) hpairs
  apply Reference.ofText_injective
  rw [stripUrl, if_pos (hasGenerated_signedUrl h _ _), Reference.ofText_removeKeys,
    Placement.ofText_signedUrl h, hbare, hparts, Reference.withoutKeys_extend hsegments]

/-- When what was put behind a query is taken off again, some of it is kept. -/
theorem queryPairs_strip_signBehind (h : params.IsReadable) (r : PlainRequest) (signature : Text) :
    queryPairs (strip (signBehind r signature params)) = queryPairs (strip r) ++
      (Placement.queryPairs signature params (Placement.carriedKeys (strip r).url)).filter
        fun pair => !Key.isGenerated pair.1 := by
  have hself : (queryPairs (strip r)).filter (fun pair => !Key.isGenerated pair.1) =
      queryPairs (strip r) := by
    rw [← queryPairs_strip, strip_strip]
  rw [queryPairs_strip, queryPairs_signBehind h, List.filter_append, hself]

theorem carriedKeys_strip_signBehind (h : params.IsReadable) (r : PlainRequest)
    (signature : Text) : Placement.carriedKeys (strip (signBehind r signature params)).url =
      Placement.keptKeys signature params (Placement.carriedKeys (strip r).url) := by
  rw [carriedKeys_url, queryPairs_strip_signBehind h, List.map_append, ← carriedKeys_url,
    Placement.keptKeys]

/-- **What is put behind the query when it is signed again** is what was taken off. -/
theorem queryPairs_strip_again (h : params.IsReadable) (r : PlainRequest) (signature : Text) :
    Placement.queryPairs signature params
        (Placement.carriedKeys (strip (signBehind r signature params)).url) =
      (Placement.queryPairs signature params (Placement.carriedKeys (strip r).url)).filter
        fun pair => Key.isGenerated pair.1 := by
  rw [carriedKeys_strip_signBehind h, Placement.queryPairs_again]

/-- Taking off what was put behind a query for the second time gives what it was put behind. -/
theorem strip_signBehind_again (h : params.IsReadable) (r : PlainRequest) (signature : Text) :
    strip (signBehind (signBehind r signature params) signature params) =
      strip (signBehind r signature params) := by
  have hgenerated : hasGenerated (signBehind r signature params).url = true :=
    hasGenerated_signedUrl h _ _
  have hurl : (strip (signBehind r signature params)).url =
      stripUrl (signBehind r signature params).url := by rw [strip_eq]
  have hpairs : ∀ pair ∈ Placement.queryPairs signature params
      (Placement.carriedKeys (stripUrl (signBehind r signature params).url)),
      Key.isGenerated pair.1 = true := by
    intro pair hpair
    rw [← hurl, queryPairs_strip_again h, List.mem_filter] at hpair
    exact hpair.2
  -- what is put there the second time is all taken off, so only the text in front remains
  have hagain := stripUrl_signedUrl_stripUrl h hgenerated hpairs
  rw [← hurl] at hagain
  generalize signBehind r signature params = once at hagain
  rw [strip_eq (signBehind once signature params)]
  exact congrArg (fun url => { strip once with url }) hagain

theorem signBehind_again (h : params.IsReadable) (r : PlainRequest) (signature : Text) :
    signBehind (signBehind (signBehind r signature params) signature params) signature params =
      signBehind (signBehind r signature params) signature params := by
  rw [signBehind, strip_signBehind_again h, ← signBehind]

/-- **The fields that are taken off move to the end** when they are put behind the query again. -/
theorem queryFields_again (h : params.IsReadable) (r : PlainRequest) (signature : Text) :
    let fields := queryFields (signBehind r signature params)
    queryFields (signBehind (signBehind r signature params) signature params) =
      (fields.filter fun field => !Key.isGenerated field.1) ++
        fields.filter fun field => Key.isGenerated field.1 := by
  intro fields
  have hnone : (queryFields (strip r)).filter (fun field => Key.isGenerated field.1) = [] := by
    rw [queryFields_strip, List.filter_filter, List.filter_eq_nil_iff]
    intro field _
    simp
  have hkey : ∀ pair ∈ Placement.queryPairs signature params (Placement.carriedKeys (strip r).url),
      Key.isGenerated pair.1 = Key.isGenerated pair.field.1 := by
    intro pair hpair
    have hwritten := (Placement.isWritten_of_mem_queryPairs h hpair).1
    have hdecoded : pair.field.1 = Percent.decode pair.1 := rfl
    rw [hdecoded, ← isGenerated_encode (Percent.decode _), Percent.encode_decode hwritten]
  have hput : (queryFields (signBehind r signature params)).filter
      (fun field => Key.isGenerated field.1) =
        ((Placement.queryPairs signature params (Placement.carriedKeys (strip r).url)).filter
          fun pair => Key.isGenerated pair.1).map Pair.field := by
    rw [queryFields_signBehind h, List.filter_append, hnone, List.nil_append, List.filter_map]
    exact congrArg _ (List.filter_congr fun pair hpair => (hkey pair hpair).symm)
  rw [queryFields_signBehind h, queryFields_strip, queryPairs_strip_again h, hput]

end Consumer

end OAuth
