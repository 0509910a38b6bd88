import OAuth.Proofs.Signing

/-!
# Signing again and again

A signing leaves its signature in the header or behind the query, and the next one finds it there.
An earlier signature behind the query is taken off by every signing, but one in the header is only
overwritten by a signing into the header. Main statements: `Run.carriedSignatures_eq`, what a
request carries after any run of calls, and `Run.carriedSignatures_eq_last_iff`, when that is the
last signature alone.
-/

namespace OAuth

namespace Consumer

/-! ## Signatures of a request -/

/-- The values with the key of the signature. -/
def signaturesOf (pairs : List Pair) : List Text :=
  (pairs.filter fun pair => pair.1 == Key.signature).map Prod.snd

/-- The signatures in the header and in the query, in written form. -/
def carriedSignatures (r : PlainRequest) : List Text :=
  signaturesOf (elements r) ++ signaturesOf (queryPairs r)

theorem signaturesOf_append (pairs more : List Pair) :
    signaturesOf (pairs ++ more) = signaturesOf pairs ++ signaturesOf more :=
  Pair.valuesOf_append pairs more Key.signature

theorem signaturesOf_eq_nil {pairs : List Pair} (h : ∀ pair ∈ pairs, pair.1 ≠ Key.signature) :
    signaturesOf pairs = [] := Pair.valuesOf_of_forall_ne h

theorem signaturesOf_signaturePair (signature : Text) :
    signaturesOf [Placement.signaturePair signature] = [Percent.encode signature] := rfl

section Writing

variable {signature : Text} {params : Params} {carried : List Text}

/-- A header that is written has one signature. -/
theorem signaturesOf_headerPairs :
    signaturesOf (Placement.headerPairs signature params carried) = [Percent.encode signature] := by
  rw [Placement.headerPairs, Placement.protocolPairs, ← List.append_assoc, signaturesOf_append,
    signaturesOf_signaturePair, signaturesOf_eq_nil, List.nil_append]
  intro pair hpair
  rw [List.mem_append, Option.mem_toList, List.mem_filterMap] at hpair
  obtain hpair | ⟨key, hkey, hpair⟩ := hpair
  · obtain ⟨-, hrealm⟩ := Params.firstPair?_eq_some.1 hpair
    rw [hrealm]
    exact Key.ne_signature_of_mem List.mem_cons_self
  · obtain ⟨-, rfl⟩ := Params.firstPair?_eq_some.1 hpair
    refine Key.ne_signature_of_mem (List.mem_cons_of_mem _ ?_)
    rw [List.mem_append, List.mem_filter] at hkey
    rw [List.mem_append]
    exact hkey.imp_left And.left

/-- What is put behind a query has one signature. -/
theorem signaturesOf_queryPairs :
    signaturesOf (Placement.queryPairs signature params carried) = [Percent.encode signature] := by
  rw [Placement.queryPairs, ← List.singleton_append, signaturesOf_append,
    signaturesOf_signaturePair, signaturesOf_eq_nil, List.append_nil]
  intro pair hpair
  obtain ⟨key, hkey, hpair⟩ := List.mem_flatMap.1 hpair
  rw [Params.fst_of_mem_queryPairs hpair]
  exact Key.ne_signature_of_mem (List.mem_cons_of_mem _ (Placement.mem_of_mem_queryKeys hkey))

/-- No signature is left in the query when an earlier signing is taken off. -/
theorem signaturesOf_queryPairs_strip (r : PlainRequest) :
    signaturesOf (queryPairs (strip r)) = [] := by
  refine signaturesOf_eq_nil fun pair hpair hkey => ?_
  obtain ⟨field, hfield, rfl⟩ := List.mem_map.1 hpair
  have hfield : field.1 = Key.signature := (Key.encode_eq_iff Key.isKey_signature).1 hkey
  have hmem : Key.signature ∉ Reference.keys (strip r).url := by
    rw [← Placement.mem_carriedKeys Key.isKey_signature]
    exact not_mem_carriedKeys_strip List.mem_cons_self r
  exact hmem (hfield ▸ List.mem_map_of_mem ‹_›)

/-- A query that a signature was put behind has one signature. -/
theorem signaturesOf_signBehind (h : params.IsReadable) (r : PlainRequest) (signature : Text) :
    signaturesOf (queryPairs (signBehind r signature params)) = [Percent.encode signature] := by
  rw [queryPairs_signBehind h, signaturesOf_append, signaturesOf_queryPairs_strip, List.nil_append,
    signaturesOf_queryPairs]

end Writing

/-! ## One call -/

section Call

variable {c : Consumer} {stamp : Stamp} {r r' : PlainRequest} {written : Text}

/-- A signing into the header leaves one signature, and realms without quotes. -/
theorem carriedSignatures_of_header (hc : c.IsReadable) (hrealm : HasPlainRealm r)
    (hplacement : c.placement = .header) (h : c.sign stamp r = (.ok written, r')) :
    ∃ signature, c.signature stamp (strip r) = .ok signature ∧
      signaturesOf (elements r') = [Percent.encode signature] ∧
      signaturesOf (queryPairs r') = [] ∧ HasPlainRealm r' := by
  obtain ⟨signature, hsignature, -, rfl, helements⟩ := elements_of_header hc hrealm hplacement h
  refine ⟨signature, hsignature, ?_, signaturesOf_queryPairs_strip r, ?_⟩
  · rw [helements]
    exact signaturesOf_headerPairs
  · intro realm hmem
    rw [helements, Placement.mem_headerPairs] at hmem
    obtain ⟨hfirst, -⟩ | hsignature := hmem
    · exact not_mem_of_mem_signedParams hc hrealm (Params.first?_mem hfirst)
    · obtain ⟨-, rfl⟩ := Prod.mk.inj hsignature
      exact Percent.not_mem_encode (by decide) signature

/-- A signing behind the query leaves one signature there, and the header as it was. -/
theorem carriedSignatures_of_query (hc : c.IsReadable) (hplacement : c.placement = .query)
    (h : c.sign stamp r = (.ok written, r')) :
    ∃ signature, c.signature stamp (strip r) = .ok signature ∧ elements r' = elements r ∧
      signaturesOf (queryPairs r') = [Percent.encode signature] := by
  obtain ⟨signature, hsignature, rfl, -⟩ := sign_query hplacement h
  exact ⟨signature, hsignature, elements_signBehind _ _ _,
    signaturesOf_signBehind (isReadable_signedParams hc.additional) r signature⟩

end Call

end Consumer

/-! ## Runs -/

/-- A call that has signed a request. -/
structure Call where
  /-- who signed -/
  consumer : Consumer
  /-- when, and by which chance -/
  stamp : Stamp
  /-- the signature that was made -/
  signature : Text
  deriving DecidableEq

/-- Runs of calls that succeed, the last call first, from a request to what becomes of it. -/
inductive Run (start : PlainRequest) : List Call → PlainRequest → Prop where
  /-- no call -/
  | nil : Run start [] start
  /-- one more call -/
  | cons {call : Call} {calls : List Call} {r r' : PlainRequest} {written : Text}
      (run : Run start calls r)
      (made : call.consumer.signature call.stamp (Consumer.strip r) = .ok call.signature)
      (sign : call.consumer.sign call.stamp r = (.ok written, r')) : Run start (call :: calls) r'

namespace Run

open Consumer

/-- What some calls leave in the header: the signature of the last one into it. -/
def headerSignatures (calls : List Call) : List Text :=
  ((calls.find? fun call => call.consumer.placement == .header).map fun call =>
    Percent.encode call.signature).toList

theorem headerSignatures_of_header {call : Call} (h : call.consumer.placement = .header)
    (calls : List Call) : headerSignatures (call :: calls) = [Percent.encode call.signature] := by
  simp [headerSignatures, h]

theorem headerSignatures_of_query {call : Call} (h : call.consumer.placement = .query)
    (calls : List Call) : headerSignatures (call :: calls) = headerSignatures calls := by
  simp [headerSignatures, h]

/-- Nothing is left in the header if all calls sign behind the query. -/
theorem headerSignatures_eq_nil {calls : List Call} :
    headerSignatures calls = [] ↔ ∀ call ∈ calls, call.consumer.placement = .query := by
  have hquery : ∀ placement : Placement, placement ≠ .header ↔ placement = .query := by
    intro placement
    cases placement <;> decide
  simp [headerSignatures, hquery]

variable {start r : PlainRequest} {calls : List Call} {call : Call}

/-- A consumer with credentials that makes a signature signs. -/
theorem sign (run : Run start calls r) (hcredentials : call.consumer.hasCredentials = true)
    (made : call.consumer.signature call.stamp (strip r) = .ok call.signature) :
    Run start (call :: calls) (call.consumer.sign call.stamp r).2 := by
  cases hwrite : call.consumer.placement.write call.signature (strip r)
      (call.consumer.signedParams call.stamp (strip r)) with
  | mk written r' =>
    have hsign := sign_eq_ok.2 ⟨hcredentials, call.signature, made, hwrite⟩
    rw [hsign]
    exact run.cons made hsign

/-- **After a run the header has the signature of the last call into it**, and no other. -/
theorem signatures_header (hrealm : HasPlainRealm start)
    (hstart : signaturesOf (elements start) = [])
    (hcalls : ∀ call ∈ calls, call.consumer.IsReadable) (run : Run start calls r) :
    HasPlainRealm r ∧ signaturesOf (elements r) = headerSignatures calls := by
  -- the realms are part of the invariant, since a quote in one could hide a signature
  induction run with
  | nil => exact ⟨hrealm, hstart⟩
  | @cons call calls r r' written run made sign ih =>
    obtain ⟨hplain, hheader⟩ := ih fun call hmem => hcalls call (List.mem_cons_of_mem _ hmem)
    have hreadable := hcalls call List.mem_cons_self
    cases hplacement : call.consumer.placement with
    | header =>
      obtain ⟨signature, hmade, hheader', -, hplain'⟩ :=
        carriedSignatures_of_header hreadable hplain hplacement sign
      obtain rfl : signature = call.signature := Except.ok.inj (hmade.symm.trans made)
      rw [headerSignatures_of_header hplacement]
      exact ⟨hplain', hheader'⟩
    | query =>
      obtain ⟨-, -, helements, -⟩ := carriedSignatures_of_query hreadable hplacement sign
      rw [HasPlainRealm, helements, headerSignatures_of_query hplacement]
      exact ⟨hplain, hheader⟩

/-- **What a request carries after a run**: the signature of the last call, and before it, unless
that call signed into the header, what earlier calls left in the header. -/
theorem carriedSignatures_eq (hrealm : HasPlainRealm start)
    (hstart : signaturesOf (elements start) = [])
    (hcalls : ∀ other ∈ call :: calls, other.consumer.IsReadable)
    (run : Run start (call :: calls) r) :
    carriedSignatures r = (match call.consumer.placement with
      | .header => []
      | .query => headerSignatures calls) ++ [Percent.encode call.signature] := by
  -- the header is known from the run, the query from its last call
  have hheader := (signatures_header hrealm hstart hcalls run).2
  have hreadable := hcalls call List.mem_cons_self
  cases run with
  | @cons _ _ before _ written run made sign =>
    have hplain := (signatures_header hrealm hstart
      (fun call hmem => hcalls call (List.mem_cons_of_mem _ hmem)) run).1
    cases hplacement : call.consumer.placement with
    | header =>
      obtain ⟨-, -, -, hquery, -⟩ := carriedSignatures_of_header hreadable hplain hplacement sign
      rw [carriedSignatures, hheader, hquery, headerSignatures_of_header hplacement]
      rfl
    | query =>
      obtain ⟨signature, hmade, -, hquery⟩ := carriedSignatures_of_query hreadable hplacement sign
      obtain rfl : signature = call.signature := Except.ok.inj (hmade.symm.trans made)
      rw [carriedSignatures, hheader, hquery, headerSignatures_of_query hplacement]

/-- **A request carries the last signature alone** exactly if the last call signed into the header,
or no earlier one did. -/
theorem carriedSignatures_eq_last_iff (hrealm : HasPlainRealm start)
    (hstart : signaturesOf (elements start) = [])
    (hcalls : ∀ other ∈ call :: calls, other.consumer.IsReadable)
    (run : Run start (call :: calls) r) :
    carriedSignatures r = [Percent.encode call.signature] ↔
      call.consumer.placement = .header ∨
        ∀ earlier ∈ calls, earlier.consumer.placement = .query := by
  rw [carriedSignatures_eq hrealm hstart hcalls run]
  cases call.consumer.placement with
  | header => simp
  | query =>
    simp [headerSignatures_eq_nil]

/-- A call that signs with the secrets themselves. -/
def plainCall (placement : Placement) (tokenSecret : Text) : Call :=
  let consumer : Consumer := { key := "ck".toList, secret := "cs".toList, method := .plaintext }
  { consumer := { consumer.withToken "t".toList tokenSecret with placement := placement }
    stamp := ⟨"n".toList, "1".toList⟩
    signature := "cs&".toList ++ tokenSecret }

theorem isReadable_plainCall (placement : Placement) (tokenSecret : Text) :
    (plainCall placement tokenSecret).consumer.IsReadable :=
  isReadable_of_isWritten fun _ hpair => nomatch hpair

/-- A request that two calls sign. -/
def signedTwice (first second : Placement) : PlainRequest :=
  let once := (plainCall first "old".toList).consumer.sign ⟨"n".toList, "1".toList⟩
    (PlainRequest.get "http://h/".toList)
  ((plainCall second "new".toList).consumer.sign ⟨"n".toList, "1".toList⟩ once.2).2

theorem run_signedTwice (first second : Placement) :
    Run (.get "http://h/".toList) [plainCall second "new".toList, plainCall first "old".toList]
      (signedTwice first second) := by
  refine Run.sign (Run.sign .nil ?_ ?_) ?_ ?_
  · rfl
  · rfl
  · rfl
  · rfl

theorem carriedSignatures_query_header :
    carriedSignatures (signedTwice .query .header) = ["cs%26new".toList] := by
  refine (carriedSignatures_eq_last_iff ?_ ?_ ?_ (run_signedTwice .query .header)).2 (.inl rfl)
  · decide
  · decide
  · simp [isReadable_plainCall]

/-- **A signature in the header stays** when a later one goes behind the query. -/
theorem carriedSignatures_header_query :
    carriedSignatures (.get "http://h/".toList) = [] ∧
      bodyPairs (PlainRequest.get "http://h/".toList) = [] ∧
      Run (.get "http://h/".toList) [plainCall .query "new".toList, plainCall .header "old".toList]
        (signedTwice .header .query) ∧
      carriedSignatures (signedTwice .header .query) = ["cs%26old".toList, "cs%26new".toList] := by
  refine ⟨by decide, by decide, run_signedTwice .header .query, ?_⟩
  refine carriedSignatures_eq ?_ ?_ ?_ (run_signedTwice .header .query)
  · decide
  · decide
  · simp [isReadable_plainCall]

end Run

end OAuth
