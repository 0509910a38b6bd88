import OAuth.Placement
import OAuth.Proofs.Authorization
import OAuth.Proofs.Params
import OAuth.Proofs.Reference

/-!
# Reading written signatures back

What is written for a signature and its parameters is a list of pairs, and the readers find these
pairs again. Main statements: `Placement.read?_headerValue` for the header, and
`Placement.fields_signedUrl` for the query.
-/

namespace OAuth

namespace Key

/-- A key that is written can be read back. -/
theorem isKey_of_mem {key : Text}
    (h : key ∈ signature :: realm :: (optional ++ mandatory)) : Authorization.IsKey key := by
  have all : ∀ key ∈ signature :: realm :: (optional ++ mandatory), Authorization.IsKey key := by
    decide
  exact all key h

theorem isKey_signature : Authorization.IsKey signature := isKey_of_mem (by simp)

theorem isKey_realm : Authorization.IsKey realm := isKey_of_mem (by simp)

theorem isKey_of_mem_protocol {key : Text} (h : key ∈ optional ++ mandatory) :
    Authorization.IsKey key :=
  isKey_of_mem (List.mem_cons_of_mem _ (List.mem_cons_of_mem _ h))

theorem isKey_of_mem_generated {key : Text} (h : key ∈ generated) : Authorization.IsKey key := by
  have all : ∀ key ∈ generated, key ∈ signature :: realm :: (optional ++ mandatory) := by decide
  exact isKey_of_mem (all key h)

theorem ne_signature_of_mem {key : Text} (h : key ∈ realm :: (optional ++ mandatory)) :
    key ≠ signature := by
  rintro rfl
  revert h
  decide

/-- A key that can be read back is written as it is. -/
theorem encode_eq_self {key : Text} (h : Authorization.IsKey key) : Percent.encode key = key :=
  Percent.encode_eq_self h.2

theorem encode_pair {key : Text} (h : Authorization.IsKey key) (value : Text) :
    Pair.encode (key, value) = (key, Percent.encode value) := Prod.ext (encode_eq_self h) rfl

theorem isWritten_of_isKey {key : Text} (h : Authorization.IsKey key) : Percent.IsWritten key :=
  Percent.isWritten_of_isUnreserved h.2

/-- A key that can be read back is read as it is. -/
theorem decode_eq_self {key : Text} (h : Authorization.IsKey key) : Percent.decode key = key := by
  have hdecode := Percent.decode_encode key
  rwa [encode_eq_self h] at hdecode

/-- A field has such a key if it has it in written form. -/
theorem encode_eq_iff {key s : Text} (h : Authorization.IsKey key) :
    Percent.encode s = key ↔ s = key := by
  constructor
  · intro hs
    exact Percent.encode_injective (hs.trans (encode_eq_self h).symm)
  · rintro rfl
    exact encode_eq_self h

end Key

/-- Parameters that can be written and read back: the values of the keys that are written, but
for the realm, are in written form. -/
def Params.IsReadable (params : Params) : Prop :=
  ∀ pair ∈ params, pair.1 ∈ Key.optional ++ Key.mandatory → Percent.IsWritten pair.2

instance (params : Params) : Decidable params.IsReadable :=
  inferInstanceAs (Decidable (∀ pair ∈ params.pairs, _ → _))

theorem Params.IsWritten.isReadable {params : Params} (h : params.IsWritten) : params.IsReadable :=
  fun pair hpair _ => (h pair hpair).2

namespace Placement

variable {signature : Text} {params : Params} {carried : List Text} {pair : Pair}

theorem isWritten_signaturePair (signature : Text) : (signaturePair signature).IsWritten :=
  ⟨Key.isWritten_of_isKey Key.isKey_signature, Percent.isWritten_encode signature⟩

/-- The field of the signature has its key, and has it for its value. -/
theorem field_signaturePair (signature : Text) :
    (signaturePair signature).field = (Key.signature, some signature) := by
  rw [signaturePair, Pair.field, Key.decode_eq_self Key.isKey_signature, Percent.decode_encode]

/-! ## The header -/

/-- The pairs of the header but for the realm. -/
def protocolPairs (signature : Text) (params : Params) (carried : List Text) : List Pair :=
  ((Key.optional.filter fun key => !carried.contains key) ++ Key.mandatory).filterMap
    params.firstPair? ++ [signaturePair signature]

/-- The pairs of the header. -/
def headerPairs (signature : Text) (params : Params) (carried : List Text) : List Pair :=
  (params.firstPair? Key.realm).toList ++ protocolPairs signature params carried

/-- The elements of the header are the texts of its pairs. -/
theorem headerElements_eq (signature : Text) (params : Params) (carried : List Text) :
    headerElements signature params carried =
      (headerPairs signature params carried).map Pair.headerText := by
  have htext : params.headerText? = fun key => (params.firstPair? key).map Pair.headerText :=
    funext params.headerText?_eq
  rw [headerElements, headerPairs, protocolPairs, htext, List.filterMap_append]
  simp only [List.map_append, List.map_filterMap, List.append_assoc]
  cases params.firstPair? Key.realm <;> rfl

/-- Whether a key is written into the header, beside the realm and the signature. -/
def IsHeaderKey (carried : List Text) (key : Text) : Prop :=
  key ∈ Key.optional ∧ key ∉ carried ∨ key ∈ Key.mandatory

instance (key : Text) : Decidable (IsHeaderKey carried key) :=
  inferInstanceAs (Decidable (_ ∧ _ ∨ _))

theorem IsHeaderKey.mem {key : Text} (h : IsHeaderKey carried key) :
    key ∈ Key.optional ++ Key.mandatory := by
  rcases h with ⟨h, -⟩ | h
  · exact List.mem_append_left _ h
  · exact List.mem_append_right _ h

theorem isHeaderKey_of_mem {key : Text} (h : key ∈ Key.optional ++ Key.mandatory)
    (hlacks : key ∉ carried) : IsHeaderKey carried key :=
  (List.mem_append.1 h).imp (fun hoptional => ⟨hoptional, hlacks⟩) id

theorem mem_protocolPairs : pair ∈ protocolPairs signature params carried ↔
    params.first? pair.1 = some pair.2 ∧ IsHeaderKey carried pair.1 ∨
      pair = signaturePair signature := by
  rw [protocolPairs, List.mem_append, List.mem_singleton, List.mem_filterMap]
  refine or_congr_left ?_
  constructor
  · rintro ⟨key, hkey, hpair⟩
    obtain ⟨hfirst, rfl⟩ := Params.firstPair?_eq_some.1 hpair
    rw [List.mem_append, List.mem_filter] at hkey
    exact ⟨hfirst, by simpa [IsHeaderKey] using hkey⟩
  · rintro ⟨hfirst, hkey⟩
    refine ⟨pair.1, ?_, Params.firstPair?_eq_some.2 ⟨hfirst, rfl⟩⟩
    rw [List.mem_append, List.mem_filter]
    simpa [IsHeaderKey] using hkey

theorem mem_headerPairs : pair ∈ headerPairs signature params carried ↔
    params.first? pair.1 = some pair.2 ∧ (pair.1 = Key.realm ∨ IsHeaderKey carried pair.1) ∨
      pair = signaturePair signature := by
  rw [headerPairs, List.mem_append, Option.mem_toList, Params.firstPair?_eq_some,
    mem_protocolPairs]
  constructor
  · rintro (⟨hfirst, hkey⟩ | ⟨hfirst, hkey⟩ | h)
    · rw [← hkey] at hfirst
      exact .inl ⟨hfirst, .inl hkey⟩
    · exact .inl ⟨hfirst, .inr hkey⟩
    · exact .inr h
  · rintro (⟨hfirst, hkey | hkey⟩ | h)
    · rw [hkey] at hfirst
      exact .inl ⟨hfirst, hkey⟩
    · exact .inr (.inl ⟨hfirst, hkey⟩)
    · exact .inr (.inr h)

theorem protocolPairs_ne_nil (signature : Text) (params : Params) (carried : List Text) :
    protocolPairs signature params carried ≠ [] := by
  simp [protocolPairs]

/-- The pairs of the header but for the realm have no quotes. -/
theorem isKey_of_mem_protocolPairs (h : params.IsReadable)
    (hpair : pair ∈ protocolPairs signature params carried) :
    Authorization.IsKey pair.1 ∧ '"' ∉ pair.2 := by
  rcases mem_protocolPairs.1 hpair with ⟨hfirst, hkey⟩ | rfl
  · have hmem : pair ∈ params := Params.first?_mem hfirst
    exact ⟨Key.isKey_of_mem_protocol hkey.mem, (h pair hmem hkey.mem).not_mem (by decide)⟩
  · exact ⟨Key.isKey_signature, Percent.not_mem_encode (by decide) _⟩

/-- The keys of the header can be read back. -/
theorem isKey_of_mem_headerPairs (hpair : pair ∈ headerPairs signature params carried) :
    Authorization.IsKey pair.1 := by
  rcases mem_headerPairs.1 hpair with ⟨-, hrealm | hkey⟩ | rfl
  · exact hrealm ▸ Key.isKey_realm
  · exact Key.isKey_of_mem_protocol hkey.mem
  · exact Key.isKey_signature

/-- **The pairs of the header are read back** if none of their values has quotes. -/
theorem read?_headerValue_of_not_mem
    (h : ∀ pair ∈ headerPairs signature params carried, '"' ∉ pair.2) :
    Authorization.read? (headerValue signature params carried) =
      some (headerPairs signature params carried) := by
  rw [headerValue, headerElements_eq]
  exact Authorization.read?_write fun pair hpair => ⟨isKey_of_mem_headerPairs hpair, h pair hpair⟩

/-- The pairs of the header are read back if the realm has no quotes and the rest is readable. -/
theorem read?_headerValue (h : params.IsReadable)
    (hrealm : ∀ realm, params.first? Key.realm = some realm → '"' ∉ realm) :
    Authorization.read? (headerValue signature params carried) =
      some (headerPairs signature params carried) := by
  refine read?_headerValue_of_not_mem fun pair hpair => ?_
  rw [headerPairs, List.mem_append, Option.mem_toList] at hpair
  rcases hpair with hpair | hpair
  · exact hrealm _ (Params.firstPair?_eq_some.1 hpair).1
  · exact (isKey_of_mem_protocolPairs h hpair).2

/-- With balanced quotes in the realm, the pairs behind it are read back all the same. -/
theorem read?_headerValue_of_isBalanced (h : params.IsReadable)
    (hrealm : ∀ realm, params.first? Key.realm = some realm → Authorization.IsBalanced realm) :
    ∃ front, Authorization.read? (headerValue signature params carried) =
      some (front ++ protocolPairs signature params carried) := by
  have hprotocol : ∀ pair ∈ protocolPairs signature params carried,
      Authorization.IsKey pair.1 ∧ '"' ∉ pair.2 := fun _ hpair => isKey_of_mem_protocolPairs h hpair
  rw [headerValue, headerElements_eq, headerPairs]
  cases hfirst : params.firstPair? Key.realm with
  | none => exact ⟨[], Authorization.read?_write hprotocol⟩
  | some first =>
    obtain ⟨hvalue, hkey⟩ := Params.firstPair?_eq_some.1 hfirst
    have hne := protocolPairs_ne_nil signature params carried
    exact ⟨_, Authorization.read?_write_cons (hkey ▸ Key.isKey_realm) (hrealm _ hvalue) hne
      hprotocol⟩

/-- The value of a header depends on the first values only. -/
theorem headerValue_congr {other : Params} (h : ∀ key, params.first? key = other.first? key) :
    headerValue signature params carried = headerValue signature other carried := by
  have htext : params.headerText? = other.headerText? := by
    funext key
    rw [Params.headerText?, h key, Params.headerText?]
  rw [headerValue, headerElements, htext, headerValue, headerElements]

/-- The keys of a header that is written are the protocol's own, but for the realm. -/
theorem isReserved_of_mem_headerPairs (h : pair ∈ headerPairs signature params carried) :
    Key.isReserved pair.1 = true ∨ pair.1 = Key.realm := by
  have all : ∀ key ∈ Key.optional ++ Key.mandatory, Key.isReserved key = true := by decide
  rcases mem_headerPairs.1 h with ⟨-, hrealm | hkey⟩ | rfl
  · exact .inr hrealm
  · exact .inl (all pair.1 hkey.mem)
  · left
    change Key.isReserved Key.signature = true
    decide

/-! ## The query -/

/-- The keys that are put behind a query, beside the signature. -/
def queryKeys (params : Params) (carried : List Text) : List Text :=
  (Key.optional.filter fun key => params.contains key && !carried.contains key) ++
    Key.mandatory.filter fun key => !carried.contains key

/-- The pairs that are put behind a query. -/
def queryPairs (signature : Text) (params : Params) (carried : List Text) : List Pair :=
  signaturePair signature :: (queryKeys params carried).flatMap params.queryPairs

theorem mem_of_mem_queryKeys {key : Text} (h : key ∈ queryKeys params carried) :
    key ∈ Key.optional ++ Key.mandatory := by
  rw [queryKeys, List.mem_append, List.mem_filter, List.mem_filter] at h
  rcases h with h | h
  · exact List.mem_append_left _ h.1
  · exact List.mem_append_right _ h.1

/-- The form that is put behind a query is made of these pairs. -/
theorem join_queryFields (signature : Text) (params : Params) (carried : List Text) :
    Text.join ['&'] (queryFields signature params carried) =
      Text.join ['&'] ((queryPairs signature params carried).map Pair.queryText) := by
  have htext : params.queryText =
      Text.join ['&'] ∘ fun key => (params.queryPairs key).map Pair.queryText :=
    funext params.queryText_eq
  have hgroups : queryFields signature params carried =
      ([signaturePair signature] :: (queryKeys params carried).map params.queryPairs).map
        (Text.join ['&'] ∘ List.map Pair.queryText) := by
    rw [List.map_cons, List.map_map]
    simp [queryFields, queryKeys, htext, Text.join, Function.comp_def]
  have hne : ∀ group ∈ ([signaturePair signature] ::
      (queryKeys params carried).map params.queryPairs).map (List.map Pair.queryText),
      group ≠ [] := by
    intro group hgroup
    obtain ⟨pairs, hpairs, rfl⟩ := List.mem_map.1 hgroup
    rcases List.mem_cons.1 hpairs with rfl | hpairs
    · simp
    · obtain ⟨key, -, rfl⟩ := List.mem_map.1 hpairs
      simpa using params.queryPairs_ne_nil key
  rw [hgroups, ← List.map_map, Text.join_map_join _ hne, ← List.map_flatten, List.flatten_cons,
    ← List.flatMap_def, List.singleton_append, queryPairs]

theorem isWritten_of_mem_queryPairs (h : params.IsReadable)
    (hpair : pair ∈ queryPairs signature params carried) : pair.IsWritten := by
  rcases List.mem_cons.1 hpair with rfl | hpair
  · exact isWritten_signaturePair signature
  obtain ⟨key, hkey, hpair⟩ := List.mem_flatMap.1 hpair
  have hfst : pair.1 = key := Params.fst_of_mem_queryPairs hpair
  have hkey := mem_of_mem_queryKeys hkey
  refine ⟨hfst ▸ Key.isWritten_of_isKey (Key.isKey_of_mem_protocol hkey), ?_⟩
  by_cases hcontains : params.contains key = true
  · have hmem := ((Params.mem_queryPairs hcontains).1 hpair).1
    exact h pair hmem (hfst ▸ hkey)
  · have hnil : params.values key = [] :=
      Params.contains_eq_false.1 (Bool.not_eq_true _ ▸ hcontains)
    obtain rfl : pair = (key, []) := by simpa [Params.queryPairs, hnil] using hpair
    exact Percent.isWritten_nil

/-- The keys that are put behind a query are those that the query lacks and the set has; all
mandatory keys are to be in the set. -/
theorem mem_queryKeys (h : ∀ key ∈ Key.mandatory, params.contains key = true) {key : Text} :
    key ∈ queryKeys params carried ↔
      key ∈ Key.optional ++ Key.mandatory ∧ key ∉ carried ∧ params.contains key = true := by
  rw [queryKeys, List.mem_append, List.mem_append, List.mem_filter, List.mem_filter]
  constructor
  · rintro (⟨hkey, hb⟩ | ⟨hkey, hb⟩)
    · simp_all
    · simp_all
  · rintro ⟨hkey | hkey, hcarried, hcontains⟩
    · simp_all
    · simp_all

/-- The pairs that are put behind a query are the signature and, of the keys that the query lacks,
those in the set; all mandatory keys are to be in the set. -/
theorem mem_queryPairs (h : ∀ key ∈ Key.mandatory, params.contains key = true) :
    pair ∈ queryPairs signature params carried ↔
      pair ∈ params ∧ pair.1 ∈ Key.optional ++ Key.mandatory ∧ pair.1 ∉ carried ∨
        pair = signaturePair signature := by
  rw [queryPairs, List.mem_cons, or_comm, List.mem_flatMap]
  refine or_congr_left ?_
  constructor
  · rintro ⟨key, hkey, hpair⟩
    obtain ⟨hmem, hcarried, hcontains⟩ := (mem_queryKeys h).1 hkey
    obtain ⟨hin, rfl⟩ := (Params.mem_queryPairs hcontains).1 hpair
    exact ⟨hin, hmem, hcarried⟩
  · rintro ⟨hpair, hmem, hcarried⟩
    have hcontains : params.contains pair.1 = true := Params.contains_iff.2 ⟨pair.2, hpair⟩
    exact ⟨pair.1, (mem_queryKeys h).2 ⟨hmem, hcarried, hcontains⟩,
      (Params.mem_queryPairs hcontains).2 ⟨hpair, rfl⟩⟩

/-- Taking out pairs by key from those of some keys is taking out keys. -/
theorem filter_flatMap_queryPairs (params : Params) (keep : Text → Bool) (keys : List Text) :
    (keys.flatMap params.queryPairs).filter (fun pair => keep pair.1) =
      (keys.filter keep).flatMap params.queryPairs := by
  induction keys with
  | nil => rfl
  | cons key keys ih =>
    have hkey : ∀ pair ∈ params.queryPairs key, keep pair.1 = keep key := fun pair hpair =>
      congrArg keep (Params.fst_of_mem_queryPairs hpair)
    rw [List.flatMap_cons, List.filter_append, ih, List.filter_cons]
    cases hkeep : keep key with
    | true =>
      have hall : (params.queryPairs key).filter (fun pair => keep pair.1) =
          params.queryPairs key :=
        List.filter_eq_self.2 fun pair hpair => (hkey pair hpair).trans hkeep
      rw [hall]
      rfl
    | false =>
      have hnone : (params.queryPairs key).filter (fun pair => keep pair.1) = [] :=
        List.filter_eq_nil_iff.2 fun pair hpair => by simp [hkey pair hpair, hkeep]
      rw [hnone]
      rfl

/-- The keys of what is put behind a query are that of the signature and those chosen. -/
theorem mem_map_fst_queryPairs {key : Text} :
    key ∈ (queryPairs signature params carried).map Prod.fst ↔
      key = Key.signature ∨ key ∈ queryKeys params carried := by
  rw [queryPairs, List.map_cons, List.mem_cons]
  refine or_congr_right ?_
  rw [List.mem_map]
  constructor
  · rintro ⟨pair, hpair, rfl⟩
    obtain ⟨key, hkey, hpair⟩ := List.mem_flatMap.1 hpair
    rw [Params.fst_of_mem_queryPairs hpair]
    exact hkey
  · intro hkey
    obtain ⟨pair, hpair⟩ := List.exists_mem_of_ne_nil _ (params.queryPairs_ne_nil key)
    exact ⟨pair, List.mem_flatMap.2 ⟨key, hkey, hpair⟩, Params.fst_of_mem_queryPairs hpair⟩

/-- A key that can be read back is carried if a field of the query has it. -/
theorem mem_carriedKeys {url key : Text} (h : Authorization.IsKey key) :
    key ∈ carriedKeys url ↔ key ∈ Reference.keys url := by
  rw [carriedKeys, List.mem_map]
  constructor
  · rintro ⟨s, hs, hkey⟩
    exact (Key.encode_eq_iff h).1 hkey ▸ hs
  · intro hkey
    exact ⟨key, hkey, Key.encode_eq_self h⟩

/-- A text without an earlier signature in its query. -/
def bareUrl (url : Text) : Text :=
  if (carriedKeys url).contains Key.signature then Reference.removeKeys url [Key.signature] else url

theorem bareUrl_eq_self {url : Text} (h : Key.signature ∉ carriedKeys url) : bareUrl url = url := by
  rw [bareUrl, if_neg (by rwa [List.contains_iff_mem])]

theorem signedUrl_eq (url signature : Text) (params : Params) :
    signedUrl url signature params = Reference.append (bareUrl url)
      (Text.join ['&'] ((queryPairs signature params (carriedKeys url)).map Pair.queryText)) := by
  rw [← join_queryFields]
  rfl

/-- The parts of a URL with a signature behind its query. -/
theorem ofText_signedUrl (h : params.IsReadable) (url signature : Text) :
    Reference.ofText (signedUrl url signature params) = (Reference.ofText (bareUrl url)).extend
      (Text.join ['&'] ((queryPairs signature params (carriedKeys url)).map Pair.queryText)) := by
  rw [signedUrl_eq]
  refine Reference.ofText_append _ fun hmem => ?_
  have hchar := Form.isFormChar_of_mem (fun pair hpair => isWritten_of_mem_queryPairs h hpair) hmem
  revert hchar
  decide

theorem base_bareUrl (url : Text) :
    (Reference.ofText (bareUrl url)).base = (Reference.ofText url).base := by
  unfold bareUrl
  split
  · rw [Reference.ofText_removeKeys, Reference.base_withoutKeys]
  · rfl

theorem fragment_bareUrl (url : Text) :
    (Reference.ofText (bareUrl url)).fragment = (Reference.ofText url).fragment := by
  unfold bareUrl
  split
  · rw [Reference.ofText_removeKeys, Reference.fragment_withoutKeys]
  · rfl

theorem fields_bareUrl (url : Text) : (Reference.ofText (bareUrl url)).fields =
    (Reference.ofText url).fields.filter fun field => field.1 != Key.signature := by
  have hcarried : Key.signature ∈ carriedKeys url ↔ Key.signature ∈ Reference.keys url :=
    mem_carriedKeys Key.isKey_signature
  unfold bareUrl
  split
  · rw [Reference.ofText_removeKeys, Reference.fields_withoutKeys]
    refine List.filter_congr fun field _ => ?_
    by_cases hkey : field.1 = Key.signature <;> simp [hkey]
  · next hnot =>
    refine (List.filter_eq_self.2 fun field hfield => ?_).symm
    have hnot : Key.signature ∉ Reference.keys url := by simpa [hcarried] using hnot
    rw [bne_iff_ne]
    intro hkey
    exact hnot (hkey ▸ List.mem_map_of_mem hfield)

theorem base_signedUrl (h : params.IsReadable) (url signature : Text) :
    (Reference.ofText (signedUrl url signature params)).base = (Reference.ofText url).base := by
  rw [ofText_signedUrl h, Reference.base_extend, base_bareUrl]

theorem fragment_signedUrl (h : params.IsReadable) (url signature : Text) :
    (Reference.ofText (signedUrl url signature params)).fragment =
      (Reference.ofText url).fragment := by
  rw [ofText_signedUrl h, Reference.fragment_extend, fragment_bareUrl]

/-- **The pairs behind the query are read back**, behind the fields that were there. -/
theorem fields_signedUrl (h : params.IsReadable) (url signature : Text) :
    (Reference.ofText (signedUrl url signature params)).fields =
      ((Reference.ofText url).fields.filter fun field => field.1 != Key.signature) ++
        (queryPairs signature params (carriedKeys url)).map Pair.field := by
  rw [ofText_signedUrl h, Reference.fields_extend, fields_bareUrl,
    Form.decode_join_queryText fun pair hpair => isWritten_of_mem_queryPairs h hpair]

end Placement

end OAuth
