import Mathlib.Data.List.Nodup
import OAuth.Consumer
import OAuth.Proofs.Placement

/-!
# What is signed

The parameters of a signature come from the consumer, the header, the query and the body, and are
completed with those of the protocol. Main statement: `Consumer.mem_signedParams`.
-/

namespace OAuth.Consumer

/-! ## Places of parameters -/

section Places

variable {ρ : Type} [Request ρ]

/-- The elements of the authorization header, if its scheme is that of the protocol. -/
def elements (r : ρ) : List Pair :=
  ((Request.header? r authorizationHeader).bind Authorization.read?).getD []

/-- The pairs of the query, in written form. -/
def queryPairs (r : ρ) : List Pair := (queryFields r).map fun field => field.pair.encode

/-- The pairs of the body, in written form. -/
def bodyPairs (r : ρ) : List Pair := (bodyFields r).map fun field => field.pair.encode

theorem isWritten_of_mem_queryPairs {r : ρ} {pair : Pair} (h : pair ∈ queryPairs r) :
    pair.IsWritten := by
  obtain ⟨field, -, rfl⟩ := List.mem_map.1 h
  exact Pair.isWritten_encode _

theorem isWritten_of_mem_bodyPairs {r : ρ} {pair : Pair} (h : pair ∈ bodyPairs r) :
    pair.IsWritten := by
  obtain ⟨field, -, rfl⟩ := List.mem_map.1 h
  exact Pair.isWritten_encode _

theorem mem_headerParams {r : ρ} {pair : Pair} :
    pair ∈ headerParams r ↔ pair ∈ elements r ∧ isKeptElement pair.1 = true := by
  have hread : (Request.header? r authorizationHeader).bind Authorization.params? =
      ((Request.header? r authorizationHeader).bind Authorization.read?).map Params.ofList := by
    cases Request.header? r authorizationHeader <;> rfl
  unfold headerParams elements
  rw [hread]
  cases (Request.header? r authorizationHeader).bind Authorization.read? with
  | none => simp [Params.not_mem_empty]
  | some pairs =>
    simp only [Option.map_some, Option.getD_some, Params.mem_filter, Params.mem_ofList]

theorem mem_collect {c : Consumer} {r : ρ} {pair : Pair} : pair ∈ c.collect r ↔
    pair ∈ c.additional ∨ pair ∈ headerParams r ∨ pair ∈ queryPairs r ∨ pair ∈ bodyPairs r := by
  rw [collect, Params.insertFields, Params.mem_insertAll, Params.insertFields,
    Params.mem_insertAll, Params.mem_union, or_assoc, or_assoc]
  rfl

end Places

/-! ## Completing -/

theorem mem_complete {params : Params} {key value : Text} {pair : Pair} :
    pair ∈ complete params key value ↔
      pair ∈ params ∨ params.contains key = false ∧ pair = Pair.encode (key, value) := by
  unfold complete
  split
  · next h => simp [h]
  · next h =>
    rw [Params.insertEncoded, Params.mem_insert]
    simp [Bool.not_eq_true _ ▸ h, or_comm]

theorem contains_complete {params : Params} {key value other : Text}
    (h : Authorization.IsKey key) : (complete params key value).contains other = true ↔
      other = key ∨ params.contains other = true := by
  simp only [Params.contains_iff, mem_complete, Key.encode_pair h, Prod.mk.injEq]
  constructor
  · rintro ⟨v, hv | ⟨-, rfl, -⟩⟩
    · exact .inr ⟨v, hv⟩
    · exact .inl rfl
  · rintro (rfl | ⟨v, hv⟩)
    · cases hcontains : params.contains other with
      | false => exact ⟨_, .inr ⟨rfl, rfl, rfl⟩⟩
      | true =>
        obtain ⟨v, hv⟩ := Params.contains_iff.1 hcontains
        exact ⟨v, .inl hv⟩
    · exact ⟨v, .inl hv⟩

/-- Parameters that are completed get a value for each key that they lack, and only for these. -/
theorem mem_foldl_complete {values : List (Text × Text)} (hnodup : (values.map Prod.fst).Nodup)
    (hkey : ∀ value ∈ values, Authorization.IsKey value.1) {params : Params} {pair : Pair} :
    pair ∈ values.foldl (fun params value => complete params value.1 value.2) params ↔
      pair ∈ params ∨
        params.contains pair.1 = false ∧ ∃ value ∈ values, pair = Pair.encode value := by
  -- a key that is completed first is not one of the rest, so it does not count as lacking there
  induction values generalizing params with
  | nil => simp
  | cons first rest ih =>
    obtain ⟨hfresh, hnodup⟩ := List.nodup_cons.1 hnodup
    have hfirst : Authorization.IsKey first.1 := hkey first List.mem_cons_self
    have hrest : ∀ value ∈ rest, Authorization.IsKey value.1 := fun value hvalue =>
      hkey value (List.mem_cons_of_mem _ hvalue)
    have hcontains : ∀ other, (complete params first.1 first.2).contains other = true ↔
        other = first.1 ∨ params.contains other = true := fun _ => contains_complete hfirst
    rw [List.foldl_cons, ih hnodup hrest, mem_complete]
    constructor
    · rintro ((hmem | ⟨hlacks, rfl⟩) | ⟨hlacks, value, hvalue, rfl⟩)
      · exact .inl hmem
      · have hfst : (Pair.encode first).1 = first.1 := Key.encode_eq_self hfirst
        refine .inr ⟨?_, first, List.mem_cons_self, rfl⟩
        rw [hfst]
        exact hlacks
      · refine .inr ⟨?_, value, List.mem_cons_of_mem _ hvalue, rfl⟩
        rw [← Bool.not_eq_true, hcontains, not_or] at hlacks
        exact Bool.eq_false_iff.2 hlacks.2
    · rintro (hmem | ⟨hlacks, value, hvalue, rfl⟩)
      · exact .inl (.inl hmem)
      · rcases List.mem_cons.1 hvalue with rfl | hvalue
        · have hfst : (Pair.encode value).1 = value.1 := Key.encode_eq_self hfirst
          rw [hfst] at hlacks
          exact .inl (.inr ⟨hlacks, rfl⟩)
        · refine .inr ⟨?_, value, hvalue, rfl⟩
          have hfst : (Pair.encode value).1 = value.1 := Key.encode_eq_self (hrest value hvalue)
          rw [← Bool.not_eq_true, hcontains, not_or]
          refine ⟨fun hsame => hfresh ?_, Bool.eq_false_iff.1 hlacks⟩
          rw [← hsame, hfst]
          exact List.mem_map_of_mem hvalue

/-- The keys of the protocol's parameters, in the order of completing. -/
def protocolKeys : List Text :=
  [Key.consumerKey, Key.signatureMethod, Key.timestamp, Key.nonce, Key.version, Key.token]

theorem mem_protocolKeys {key : Text} :
    key ∈ protocolKeys ↔ key = Key.token ∨ key ∈ Key.mandatory := by
  simp only [protocolKeys, Key.mandatory, List.mem_cons, List.not_mem_nil, or_false]
  constructor <;> intro h <;> rcases h with h | h | h | h | h | h <;> simp [h]

/-- All of the keys have a value, but maybe for the token. -/
theorem map_fst_protocolValues (c : Consumer) (stamp : Stamp) :
    (c.protocolValues stamp).map Prod.fst =
      if c.sentToken?.isSome then protocolKeys else protocolKeys.dropLast := by
  cases h : c.sentToken? <;> simp [protocolValues, h, protocolKeys]

theorem nodup_protocolValues (c : Consumer) (stamp : Stamp) :
    ((c.protocolValues stamp).map Prod.fst).Nodup := by
  rw [map_fst_protocolValues]
  split <;> decide

theorem mem_protocolKeys_of_mem {c : Consumer} {stamp : Stamp} {value : Text × Text}
    (h : value ∈ c.protocolValues stamp) : value.1 ∈ protocolKeys := by
  have hkey : value.1 ∈ (c.protocolValues stamp).map Prod.fst := List.mem_map_of_mem h
  rw [map_fst_protocolValues] at hkey
  split at hkey
  · exact hkey
  · exact List.dropLast_subset _ hkey

theorem mem_protocol_of_mem_protocolKeys {key : Text} (h : key ∈ protocolKeys) :
    key ∈ Key.optional ++ Key.mandatory := by
  rcases mem_protocolKeys.1 h with rfl | h
  · exact List.mem_append_left _ List.mem_cons_self
  · exact List.mem_append_right _ h

/-- The protocol's parameters are taken off before a signing. -/
theorem mem_generated_of_mem_protocolKeys {key : Text} (h : key ∈ protocolKeys) :
    key ∈ Key.generated := by
  have all : ∀ key ∈ protocolKeys, key ∈ Key.generated := by decide
  exact all key h

theorem isKey_of_mem_protocolKeys {key : Text} (h : key ∈ protocolKeys) :
    Authorization.IsKey key :=
  Key.isKey_of_mem_protocol (mem_protocol_of_mem_protocolKeys h)

/-- The keys of the protocol's parameters are written as they are. -/
theorem fst_encode_of_mem {c : Consumer} {stamp : Stamp} {value : Text × Text}
    (h : value ∈ c.protocolValues stamp) : (Pair.encode value).1 = value.1 :=
  Key.encode_eq_self (isKey_of_mem_protocolKeys (mem_protocolKeys_of_mem h))

theorem mem_completeAll {c : Consumer} {stamp : Stamp} {params : Params} {pair : Pair} :
    pair ∈ c.completeAll stamp params ↔ pair ∈ params ∨
      params.contains pair.1 = false ∧ ∃ value ∈ c.protocolValues stamp, pair = Pair.encode value :=
  mem_foldl_complete (nodup_protocolValues c stamp) fun _ hvalue =>
    isKey_of_mem_protocolKeys (mem_protocolKeys_of_mem hvalue)

/-! ## What is signed -/

section Signed

variable {ρ : Type} [Request ρ] {c : Consumer} {stamp : Stamp} {r : ρ} {pair : Pair}

/-- **What is signed is what was collected, and the protocol's parameters that are not in it.** -/
theorem mem_signedParams : pair ∈ c.signedParams stamp r ↔ pair.1 ≠ Key.signature ∧
    (pair ∈ c.collect r ∨ (c.collect r).contains pair.1 = false ∧
      ∃ value ∈ c.protocolValues stamp, pair = Pair.encode value) := by
  rw [signedParams, Params.mem_erase, mem_completeAll, and_comm]

/-- What is signed under a key that is not one of the protocol's was collected. -/
theorem mem_signedParams_of_not_mem (h : pair.1 ∉ protocolKeys) :
    pair ∈ c.signedParams stamp r ↔ pair.1 ≠ Key.signature ∧ pair ∈ c.collect r := by
  rw [mem_signedParams]
  refine and_congr_right fun _ => or_iff_left ?_
  rintro ⟨-, value, hvalue, rfl⟩
  exact h (fst_encode_of_mem hvalue ▸ mem_protocolKeys_of_mem hvalue)

/-- What completes the parameters has one of the protocol's keys, and is in written form. -/
theorem of_mem_protocolValues {value : Text × Text} (h : value ∈ c.protocolValues stamp) :
    (Pair.encode value).1 ∈ protocolKeys ∧ (Pair.encode value).IsWritten := by
  rw [fst_encode_of_mem h]
  exact ⟨mem_protocolKeys_of_mem h, Pair.isWritten_encode value⟩

/-- What completes the parameters is the only pair of its key. -/
theorem eq_of_mem_protocolValues {value other : Text × Text} (h : value ∈ c.protocolValues stamp)
    (hother : other ∈ c.protocolValues stamp)
    (hkey : (Pair.encode other).1 = (Pair.encode value).1) : other = value := by
  rw [fst_encode_of_mem h, fst_encode_of_mem hother] at hkey
  exact List.inj_on_of_nodup_map (nodup_protocolValues c stamp) hother h hkey

/-- **What was not collected under its key is the first of it.** -/
theorem first?_signedParams (hpair : pair ∈ c.signedParams stamp r)
    (hlacks : (c.collect r).contains pair.1 = false) :
    (c.signedParams stamp r).first? pair.1 = some pair.2 := by
  -- two pairs of the key would both complete the parameters, from one list without repetition
  have hnot : ∀ value, (pair.1, value) ∉ c.collect r := by
    intro value hvalue
    rw [Params.contains_iff.2 ⟨value, hvalue⟩] at hlacks
    cases hlacks
  refine Params.first?_of_forall_eq hpair fun other hother => ?_
  rcases (mem_signedParams.1 hpair).2 with hmem | ⟨-, value, hvalue, rfl⟩
  · exact absurd hmem (hnot pair.2)
  · rcases (mem_signedParams.1 hother).2 with hmem | ⟨-, second, hsecond, heq⟩
    · exact absurd hmem (hnot other)
    · have hsame := eq_of_mem_protocolValues hvalue hsecond (congrArg Prod.fst heq).symm
      rw [hsame] at heq
      exact congrArg Prod.snd heq

/-- What is signed has all mandatory keys. -/
theorem contains_signedParams {key : Text} (h : key ∈ Key.mandatory) :
    (c.signedParams stamp r).contains key = true := by
  have hne : key ≠ Key.signature := by
    rintro rfl
    revert h
    decide
  have hkeys : key ∈ (c.protocolValues stamp).map Prod.fst := by
    rw [map_fst_protocolValues]
    have all : ∀ key ∈ Key.mandatory, key ∈ protocolKeys.dropLast := by decide
    split
    · exact List.dropLast_subset _ (all key h)
    · exact all key h
  rw [Params.contains_iff]
  cases hcollected : (c.collect r).contains key with
  | true =>
    obtain ⟨value, hvalue⟩ := Params.contains_iff.1 hcollected
    exact ⟨value, mem_signedParams.2 ⟨hne, .inl hvalue⟩⟩
  | false =>
    obtain ⟨value, hvalue, rfl⟩ := List.mem_map.1 hkeys
    refine ⟨(Pair.encode value).2, mem_signedParams.2 ⟨hne, .inr ⟨hcollected, value, hvalue, ?_⟩⟩⟩
    exact Prod.ext (fst_encode_of_mem hvalue).symm rfl

/-- What holds of written values, and of the values that the consumer and the header have for a
key, holds of all values that are signed for the key. -/
theorem value_of_mem_signedParams {P : Text → Prop} (hwritten : ∀ s, Percent.IsWritten s → P s)
    {key : Text} (hadd : ∀ value, (key, value) ∈ c.additional → P value)
    (hheader : ∀ value, (key, value) ∈ headerParams r → P value) {value : Text}
    (h : (key, value) ∈ c.signedParams stamp r) : P value := by
  rcases (mem_signedParams.1 h).2 with hcollected | ⟨-, own, hown, heq⟩
  · rcases mem_collect.1 hcollected with hmem | hmem | hmem | hmem
    · exact hadd value hmem
    · exact hheader value hmem
    · exact hwritten _ (isWritten_of_mem_queryPairs hmem).2
    · exact hwritten _ (isWritten_of_mem_bodyPairs hmem).2
  · have hencode := (of_mem_protocolValues hown).2.2
    rw [← heq] at hencode
    exact hwritten _ hencode

/-- The values of the keys that are written are readable, if those of the consumer are. -/
theorem isReadable_signedParams (h : c.additional.IsReadable) :
    (c.signedParams stamp r).IsReadable := by
  intro pair hpair hkey
  have hreserved : ∀ key ∈ Key.optional ++ Key.mandatory, isKeptElement key = false := by decide
  refine value_of_mem_signedParams (fun _ hwritten => hwritten)
    (fun value hmem => h (pair.1, value) hmem hkey) (fun value hmem => ?_) hpair
  cases (hreserved _ hkey).symm.trans (mem_headerParams.1 hmem).2

/-- What holds of written values, of the consumer's realms and of those in the header, holds of
all realms. -/
theorem realm_of_mem_signedParams {P : Text → Prop} (hwritten : ∀ s, Percent.IsWritten s → P s)
    (hadd : ∀ realm, (Key.realm, realm) ∈ c.additional → P realm)
    (helements : ∀ realm, (Key.realm, realm) ∈ elements r → P realm) {realm : Text}
    (h : (Key.realm, realm) ∈ c.signedParams stamp r) : P realm :=
  value_of_mem_signedParams hwritten hadd
    (fun realm hmem => helements realm (mem_headerParams.1 hmem).1) h

end Signed

/-! ## Signings with nothing left to chance -/

/-- Consumers that settle what makes a signing unlike any other. -/
structure IsPinned (c : Consumer) : Prop where
  /-- the consumer has a value of its own for each request -/
  nonce : c.additional.contains Key.nonce = true
  /-- the consumer has a time of its own -/
  timestamp : c.additional.contains Key.timestamp = true

section Pinned

variable {ρ : Type} [Request ρ] {c : Consumer} {r r' : ρ}

/-- The keys of the consumer's parameters are among those that are collected. -/
theorem contains_collect {key : Text} (h : c.additional.contains key = true) (r : ρ) :
    (c.collect r).contains key = true := by
  obtain ⟨value, hvalue⟩ := Params.contains_iff.1 h
  exact Params.contains_iff.2 ⟨value, mem_collect.2 (.inl hvalue)⟩

/-- Only two of the protocol's parameters tell signings apart. -/
theorem mem_protocolValues_of_ne {stamp : Stamp} {value : Text × Text}
    (h : value ∈ c.protocolValues stamp) (hnonce : value.1 ≠ Key.nonce)
    (htimestamp : value.1 ≠ Key.timestamp) (stamp' : Stamp) : value ∈ c.protocolValues stamp' := by
  simp only [protocolValues, List.mem_append, List.mem_cons, List.not_mem_nil, or_false] at h ⊢
  rcases h with (rfl | rfl | rfl | rfl | rfl) | h
  · simp
  · simp
  · exact absurd rfl htimestamp
  · exact absurd rfl hnonce
  · simp
  · exact .inr h

/-- **What is signed under a key depends on what was collected under it**, and not on time or
chance. -/
theorem mem_signedParams_congr (hpinned : c.IsPinned) {pair : Pair}
    (h : ∀ value, (pair.1, value) ∈ c.collect r ↔ (pair.1, value) ∈ c.collect r')
    (stamp stamp' : Stamp) :
    pair ∈ c.signedParams stamp r ↔ pair ∈ c.signedParams stamp' r' := by
  have hvalues : ∀ {stamp : Stamp}, (c.collect r).contains pair.1 = false →
      (∃ value ∈ c.protocolValues stamp, pair = Pair.encode value) →
      ∀ stamp', ∃ value ∈ c.protocolValues stamp', pair = Pair.encode value := by
    rintro stamp hlacks ⟨value, hvalue, rfl⟩ stamp'
    have hne : ∀ key, c.additional.contains key = true → value.1 ≠ key := by
      rintro key hkey rfl
      rw [fst_encode_of_mem hvalue, contains_collect hkey r] at hlacks
      cases hlacks
    exact ⟨value, mem_protocolValues_of_ne hvalue (hne _ hpinned.nonce) (hne _ hpinned.timestamp)
      stamp', rfl⟩
  -- whether a key is completed is decided by what was collected, which is the same
  have hcontains := Params.contains_congr h
  rw [mem_signedParams, mem_signedParams, h pair.2, ← hcontains]
  refine and_congr_right fun _ => or_congr_right (and_congr_right fun hlacks => ?_)
  exact ⟨fun hvalue => hvalues hlacks hvalue stamp', fun hvalue => hvalues hlacks hvalue stamp⟩

end Pinned

end OAuth.Consumer
