import OAuth.Proofs.Placement
import OAuth.Proofs.Utf8
import OAuth.Request.Plain

/-!
# Reading back what was written

A signature is written onto a request together with some of the parameters, and the readers of
headers and forms find exactly these. Main statements: `Placement.params?_write_header`, the set
of pairs that a written header is read as, and `Placement.fields_write_query`, the fields of a
written query in their order. Both hold whatever stands in the URL.
-/

namespace OAuth

namespace Params

variable {params : Params} {pair : Pair}

/-- Pairs whose value is the least of their key, in the order of bytes. -/
def IsLeast (params : Params) (pair : Pair) : Prop :=
  pair ∈ params ∧ ∀ other, (pair.1, other) ∈ params →
    other = pair.2 ∨ Utf8.Precedes (Utf8.encode pair.2) (Utf8.encode other)

theorem isLeast_iff : params.IsLeast pair ↔ params.first? pair.1 = some pair.2 := by
  rw [IsLeast, first?_eq_some]
  simp only [Utf8.precedes_encode_iff]

instance (params : Params) (pair : Pair) : Decidable (params.IsLeast pair) :=
  decidable_of_iff _ isLeast_iff.symm

/-- The fields of a query for a key of some parameters: one for each of its values, or one with the
empty value if there is none. -/
def fieldsOf (params : Params) (key : Text) : List Form.Field :=
  match params.values key with
  | [] => [(key, some [])]
  | values => values.map fun value => (key, some (Percent.decode value))

/-- The pairs that are put behind a query for a key are read as its fields. -/
theorem map_field_queryPairs {key : Text} (h : Authorization.IsKey key) :
    (params.queryPairs key).map Pair.field = params.fieldsOf key := by
  have hfield : ∀ value, Pair.field (key, value) = (key, some (Percent.decode value)) := by
    intro value
    rw [Pair.field, Key.decode_eq_self h]
  have hnil : Percent.decode [] = [] := Percent.decode_encode []
  unfold queryPairs fieldsOf
  cases params.values key with
  | nil => rw [List.map_singleton, hfield, hnil]
  | cons first rest =>
    rw [List.map_map]
    exact List.map_congr_left fun value _ => hfield value

end Params

namespace Placement

variable {params : Params}

/-! ## The header -/

/-- **A written header is read as the pairs that were written**: the signature and, of the realm and
the keys of the protocol that the query lacks or that are mandatory, the least of the values. -/
theorem params?_write_header (h : params.IsReadable)
    (hrealm : ∀ realm, (Key.realm, realm) ∈ params → '"' ∉ realm) (signature : Text)
    (r : PlainRequest) :
    let (value, signed) := Placement.header.write signature r params
    Request.header? signed authorizationHeader = some value ∧
      ∃ read, Authorization.params? value = some read ∧ ∀ pair, pair ∈ read ↔
        pair = (Key.signature, Percent.encode signature) ∨
          params.IsLeast pair ∧ (pair.1 = Key.realm ∨
            pair.1 ∈ Key.optional ∧ pair.1 ∉ Reference.keys r.url ∨ pair.1 ∈ Key.mandatory) := by
  have hread : Authorization.read? (headerValue signature params (carriedKeys r.url)) =
      some (headerPairs signature params (carriedKeys r.url)) :=
    read?_headerValue h fun realm hfirst => hrealm realm (Params.first?_mem hfirst)
  refine ⟨PlainRequest.header?_withHeader _ _ _, .ofList (headerPairs signature params _),
    congrArg (Option.map Params.ofList) hread, fun pair => ?_⟩
  have hcarried : pair.1 ∈ Key.optional ∧ pair.1 ∉ carriedKeys r.url ↔
      pair.1 ∈ Key.optional ∧ pair.1 ∉ Reference.keys r.url := by
    refine and_congr_right fun hkey => not_congr (mem_carriedKeys ?_)
    exact Key.isKey_of_mem_protocol (List.mem_append_left _ hkey)
  rw [Params.mem_ofList, mem_headerPairs, IsHeaderKey, hcarried, ← Params.isLeast_iff, or_comm]
  rfl

/-- Parameters with separators in the realm, and with two values for the nonce. -/
def severalParams : Params :=
  .ofList [(Key.realm, "a, b=c".toList), (Key.token, "t".toList), (Key.callback, "v".toList),
    (Key.nonce, "n%20".toList), (Key.nonce, "m".toList), ("x".toList, "1".toList)]

/-- A request with a callback in its query, in another spelling, and with an earlier signature. -/
def spelledRequest : PlainRequest := .get "http://h/?a=?&oauth%5Fcallback=u&oauth_signature=s#f?g".toList

theorem params?_write_header_several : ∃ value read,
    (Placement.header.write "s+".toList spelledRequest severalParams).1 = value ∧
      Authorization.params? value = some read ∧
      (∀ pair ∈ [(Key.realm, "a, b=c".toList), (Key.token, "t".toList), (Key.nonce, "m".toList),
        (Key.signature, "s%2B".toList)], pair ∈ read) ∧
      ∀ pair ∈ [(Key.callback, "v".toList), (Key.nonce, "n%20".toList), ("x".toList, "1".toList)],
        pair ∉ read := by
  have hreadable : severalParams.IsReadable := by decide +kernel
  have hrealm : ∀ pair ∈ severalParams.pairs, pair.1 = Key.realm → '"' ∉ pair.2 := by
    decide +kernel
  obtain ⟨-, read, hread, hmem⟩ := params?_write_header hreadable
    (fun realm h => hrealm _ h rfl) "s+".toList spelledRequest
  refine ⟨_, read, rfl, hread, fun pair hpair => ?_, fun pair hpair => ?_⟩
  · revert pair
    simp only [hmem]
    decide +kernel
  · revert pair
    simp only [hmem]
    decide +kernel

/-! ## The query -/

/-- A key that is put behind a query lacks in it, however it is spelled there. -/
theorem queryKeys_carriedKeys (params : Params) (url : Text) :
    queryKeys params (carriedKeys url) = queryKeys params (Reference.keys url) := by
  have hcontains : ∀ key ∈ Key.optional ++ Key.mandatory,
      (carriedKeys url).contains key = (Reference.keys url).contains key := by
    intro key hkey
    rw [Bool.eq_iff_iff, List.contains_iff_mem, List.contains_iff_mem,
      mem_carriedKeys (Key.isKey_of_mem_protocol hkey)]
  rw [queryKeys, queryKeys]
  congr 1
  · refine List.filter_congr fun key hkey => ?_
    rw [hcontains key (List.mem_append_left _ hkey)]
  · refine List.filter_congr fun key hkey => ?_
    rw [hcontains key (List.mem_append_right _ hkey)]

/-- The pairs that are put behind a query are read as the signature and the fields of the keys. -/
theorem map_field_queryPairs (signature : Text) (params : Params) (carried : List Text) :
    (queryPairs signature params carried).map Pair.field =
      (Key.signature, some signature) :: (queryKeys params carried).flatMap params.fieldsOf := by
  have hgroup : ∀ key ∈ queryKeys params carried,
      (params.queryPairs key).map Pair.field = params.fieldsOf key := fun key hkey =>
    Params.map_field_queryPairs (Key.isKey_of_mem_protocol (mem_of_mem_queryKeys hkey))
  rw [queryPairs, List.map_cons, field_signaturePair, List.map_flatMap, List.flatMap_def,
    List.map_congr_left hgroup, List.flatMap_def]

/-- **A written query is read as the fields that were there, and behind them those that were
written**: the signature, and of the keys of the protocol that the query lacks all the values, in
the order of bytes. An earlier signature is gone; nothing before or behind the query changes. -/
theorem fields_write_query (h : params.IsReadable) (signature : Text) (r : PlainRequest) :
    let (url, signed) := Placement.query.write signature r params
    let lacks := fun key => !(Reference.keys r.url).contains key
    signed = { r with url } ∧
      (Reference.ofText url).base = (Reference.ofText r.url).base ∧
      (Reference.ofText url).fragment = (Reference.ofText r.url).fragment ∧
      (Reference.ofText url).fields =
        ((Reference.ofText r.url).fields.filter fun field => field.1 != Key.signature) ++
          (Key.signature, some signature) ::
            ((Key.optional.filter fun key => params.contains key && lacks key) ++
              Key.mandatory.filter lacks).flatMap params.fieldsOf ∧
      ∀ key, (∀ value, value ∈ params.values key ↔ (key, value) ∈ params) ∧
        (params.values key).Pairwise fun s t => Utf8.Precedes (Utf8.encode s) (Utf8.encode t) := by
  refine ⟨rfl, base_signedUrl h r.url signature, fragment_signedUrl h r.url signature, ?_,
    fun key => ⟨fun value => Params.mem_values, ?_⟩⟩
  · have hfields := fields_signedUrl h r.url signature
    rw [map_field_queryPairs, queryKeys_carriedKeys] at hfields
    exact hfields
  · exact (params.pairwise_values key).imp Utf8.precedes_encode

theorem fields_write_query_several :
    (Reference.ofText (Placement.query.write "s+".toList spelledRequest severalParams).1).fields =
      [("a".toList, some "?".toList), (Key.callback, some "u".toList),
        (Key.signature, some "s+".toList), (Key.token, some "t".toList),
        (Key.consumerKey, some []), (Key.version, some []), (Key.signatureMethod, some []),
        (Key.timestamp, some []), (Key.nonce, some "m".toList), (Key.nonce, some "n ".toList)] := by
  have hreadable : severalParams.IsReadable := by decide +kernel
  obtain ⟨-, -, -, hfields, -⟩ := fields_write_query hreadable "s+".toList spelledRequest
  refine hfields.trans ?_
  decide +kernel

end Placement

end OAuth
