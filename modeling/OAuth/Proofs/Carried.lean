import Mathlib.Data.List.Count
import OAuth.Proofs.Provenance

/-!
# Keys that the URL carries

A key of the protocol that stands in the query of a URL, in whatever spelling, is not put behind the
query once more. Into a header an optional key is not written either, but a mandatory one is. Main
statement: `Placement.count_keysOf_write`, how often a key is there that the URL carries already;
`Placement.header_repeats_nonce` is a nonce that is written though the URL has one.
-/

namespace OAuth

theorem Pair.length_valuesOf (pairs : List Pair) (key : Text) :
    (valuesOf pairs key).length = (pairs.map Prod.fst).count key := by
  rw [valuesOf, List.length_map, ← List.countP_eq_length_filter, List.count, List.countP_map]
  rfl

namespace Placement

variable {placement : Placement} {signature : Text} {params : Params} {carried : List Text}
  {r : PlainRequest} {key : Text}

/-- The keys in a text that is written: those of the elements of a header, or of the query. -/
def keysOf (placement : Placement) (text : Text) : List Text :=
  match placement with
  | .header => ((Authorization.read? text).getD []).map Prod.fst
  | .query => Reference.keys text

/-- The keys that stay in the place where a text is written: a header is written over. -/
def keysBefore (placement : Placement) (url : Text) : List Text :=
  match placement with
  | .header => []
  | .query => Reference.keys url

/-- Whether a key is written though the URL carries it. -/
def IsRepeated (placement : Placement) (params : Params) (key : Text) : Prop :=
  placement = .header ∧ key ∈ Key.mandatory ∧ params.contains key = true

instance (placement : Placement) (params : Params) (key : Text) :
    Decidable (placement.IsRepeated params key) := inferInstanceAs (Decidable (_ ∧ _ ∧ _))

/-- **A key that is carried is written at most once**, and only if it is repeated. -/
theorem count_map_fst_pairs (hkey : key ∈ Key.optional ++ Key.mandatory) (hcarried : key ∈ carried) :
    ((placement.pairs signature params carried).map Prod.fst).count key =
      if placement.IsRepeated params key then 1 else 0 := by
  rw [← Pair.length_valuesOf]
  cases placement with
  | header =>
    have hrealm : key ≠ Key.realm := by
      have all : ∀ key ∈ Key.optional ++ Key.mandatory, key ≠ Key.realm := by decide
      exact all key hkey
    have hheader : key = Key.realm ∨ IsHeaderKey carried key ↔ key ∈ Key.mandatory :=
      (or_iff_right hrealm).trans (or_iff_right fun h => h.2 hcarried)
    have hvalues : ((params.values key).take 1).length =
        if params.contains key = true then 1 else 0 := by
      cases hcontains : params.values key <;> simp [Params.contains, hcontains]
    rw [pairs, valuesOf_headerPairs (List.mem_cons_of_mem _ hkey)]
    by_cases hmandatory : key ∈ Key.mandatory
    · rw [if_pos (hheader.2 hmandatory), hvalues]
      simp [IsRepeated, hmandatory]
    · rw [if_neg (hheader.not.2 hmandatory)]
      simp [IsRepeated, hmandatory]
  | query =>
    have hnot : key ∉ queryKeys params carried := by
      simp [queryKeys, hcarried]
    rw [pairs, valuesOf_queryPairs hkey, if_neg hnot]
    simp [IsRepeated]

/-! ## Reading the keys -/

theorem isKey_of_mem_queryPairs {pair : Pair} (h : pair ∈ queryPairs signature params carried) :
    Authorization.IsKey pair.1 := by
  rcases mem_map_fst_queryPairs.1 (List.mem_map_of_mem h) with hsignature | hkey
  · rw [hsignature]
    exact Key.isKey_signature
  · exact Key.isKey_of_mem_protocol (mem_of_mem_queryKeys hkey)

theorem keysOf_headerValue (h : params.IsReadable)
    (hrealm : ∀ realm, (Key.realm, realm) ∈ params → '"' ∉ realm) :
    Placement.header.keysOf (headerValue signature params carried) =
      (headerPairs signature params carried).map Prod.fst := by
  rw [keysOf, read?_headerValue h fun realm hfirst => hrealm realm (Params.first?_mem hfirst),
    Option.getD_some]

theorem keysOf_signedUrl (h : params.IsReadable) (url : Text) :
    Placement.query.keysOf (signedUrl url signature params) =
      ((Reference.keys url).filter fun key => key != Key.signature) ++
        (queryPairs signature params (carriedKeys url)).map Prod.fst := by
  have hfield : ∀ pair ∈ queryPairs signature params (carriedKeys url),
      (Pair.field pair).1 = pair.1 := fun pair hpair =>
    Key.decode_eq_self (isKey_of_mem_queryPairs hpair)
  rw [keysOf, Reference.keys, fields_signedUrl h, List.map_append, List.map_map, Reference.keys,
    List.filter_map]
  exact congrArg (_ ++ ·) (List.map_congr_left hfield)

/-- **What is read of a text that is written** has the keys that stay there, and those of the pairs
that are written. -/
theorem count_keysOf (h : params.IsReadable)
    (hrealm : ∀ realm, (Key.realm, realm) ∈ params → '"' ∉ realm)
    (hkey : key ∈ Key.optional ++ Key.mandatory) :
    (placement.keysOf (placement.write signature r params).1).count key =
      (placement.keysBefore r.url).count key +
        ((placement.pairs signature params (carriedKeys r.url)).map Prod.fst).count key := by
  cases placement with
  | header =>
    refine (congrArg (List.count key) (keysOf_headerValue h hrealm)).trans ?_
    exact (Nat.zero_add _).symm
  | query =>
    have hne : (key != Key.signature) = true :=
      bne_iff_ne.2 (Key.ne_signature_of_mem (List.mem_cons_of_mem _ hkey))
    have hfilter : ((Reference.keys r.url).filter fun key => key != Key.signature).count key =
        (Reference.keys r.url).count key := List.count_filter hne
    refine (congrArg (List.count key) (keysOf_signedUrl h r.url)).trans ?_
    rw [List.count_append, hfilter]
    rfl

/-- **How often a key is there that the URL carries already**: as often as before, and once more if
it is mandatory, the parameters have it and it goes into a header. Of all parameters, whatever
their texts are, this holds of the pairs that are written; of those that can be read back, it holds
of what is read. -/
theorem count_keysOf_write (hkey : key ∈ Key.optional ++ Key.mandatory)
    (hcarried : key ∈ Reference.keys r.url) (placement : Placement) (signature : Text)
    (params : Params) :
    let pairs := placement.pairs signature params (carriedKeys r.url)
    let written := (placement.write signature r params).1
    let again := if placement.IsRepeated params key then 1 else 0
    written = placement.textOf (bareUrl r.url) pairs ∧
      (pairs.map Prod.fst).count key = again ∧
      (params.IsReadable → (∀ realm, (Key.realm, realm) ∈ params → '"' ∉ realm) →
        (placement.keysOf written).count key = (placement.keysBefore r.url).count key + again) := by
  intro pairs written again
  have hmem : key ∈ carriedKeys r.url :=
    (mem_carriedKeys (Key.isKey_of_mem_protocol hkey)).2 hcarried
  have hcount : (pairs.map Prod.fst).count key = again := count_map_fst_pairs hkey hmem
  refine ⟨?_, hcount, fun hreadable hrealm => ?_⟩
  · exact congrArg Prod.fst (write_eq_textOf placement signature r params)
  · rw [← hcount]
    exact count_keysOf hreadable hrealm hkey

/-- A request with a nonce in its query, in another spelling, and with a callback. -/
def carryingRequest : PlainRequest := .get "http://h/?oauth%5Fnonce=m&oauth_callback=u".toList

/-- Parameters with a nonce and a callback of their own. -/
def carriedParams : Params := .ofList [(Key.callback, "v".toList), (Key.nonce, "n".toList)]

/-- The callback is written nowhere, and the nonce is not put behind the query. -/
theorem count_keysOf_write_carried :
    (∀ placement : Placement,
      (placement.keysOf (placement.write "s".toList carryingRequest carriedParams).1).count
        Key.callback = (placement.keysBefore carryingRequest.url).count Key.callback) ∧
      (Placement.query.keysOf
        (Placement.query.write "s".toList carryingRequest carriedParams).1).count Key.nonce = 1 := by
  have hreadable : carriedParams.IsReadable := by decide +kernel
  have hrealm : ∀ realm, (Key.realm, realm) ∈ carriedParams → '"' ∉ realm := by
    have hall : ∀ pair ∈ carriedParams.pairs, pair.1 ≠ Key.realm := by decide +kernel
    exact fun realm hmem => absurd rfl (hall _ hmem)
  have hkeys : ∀ key ∈ [Key.callback, Key.nonce], key ∈ Key.optional ++ Key.mandatory := by decide
  have hcarried : ∀ key ∈ [Key.callback, Key.nonce], key ∈ Reference.keys carryingRequest.url := by
    decide +kernel
  constructor
  · intro placement
    have hmem : Key.callback ∈ [Key.callback, Key.nonce] := by decide
    obtain ⟨-, -, hcount⟩ := count_keysOf_write (hkeys _ hmem) (hcarried _ hmem) placement
      "s".toList carriedParams
    have hnot : ¬ placement.IsRepeated carriedParams Key.callback := by
      cases placement <;> decide
    rw [hcount hreadable hrealm, if_neg hnot, Nat.add_zero]
  · have hmem : Key.nonce ∈ [Key.callback, Key.nonce] := by decide
    obtain ⟨-, -, hcount⟩ := count_keysOf_write (hkeys _ hmem) (hcarried _ hmem) .query
      "s".toList carriedParams
    rw [hcount hreadable hrealm]
    decide +kernel

/-- **A header repeats a nonce**: it is written though the query carries one. -/
theorem header_repeats_nonce :
    Key.nonce ∈ Reference.keys carryingRequest.url ∧
      (Placement.header.write "s".toList carryingRequest carriedParams).1 =
        Authorization.write ["oauth_nonce=\"n\"".toList, "oauth_signature=\"s\"".toList] ∧
      Key.nonce ∈ Placement.header.keysOf
        (Placement.header.write "s".toList carryingRequest carriedParams).1 := by
  decide +kernel

end Placement

end OAuth
