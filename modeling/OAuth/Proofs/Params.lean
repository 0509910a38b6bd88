import OAuth.Proofs.Written

/-!
# Looking parameters up

What a look-up in a set of parameters gives, said by the pairs that are in the set. Main
statements: `Params.first?_eq_some`, the first value of a key is the least of its values, and
`Pair.valuesOf_flatMap`, the values of a key among pairs in groups.
-/

namespace OAuth

namespace Pair

/-- The values of a key among some pairs. -/
def valuesOf (pairs : List Pair) (key : Text) : List Text :=
  (pairs.filter fun pair => pair.1 == key).map Prod.snd

theorem mem_valuesOf {pairs : List Pair} {key value : Text} :
    value ∈ valuesOf pairs key ↔ (key, value) ∈ pairs := by
  simp [valuesOf]

theorem valuesOf_append (front back : List Pair) (key : Text) :
    valuesOf (front ++ back) key = valuesOf front key ++ valuesOf back key := by
  rw [valuesOf, List.filter_append, List.map_append, valuesOf, valuesOf]

/-- Pairs that all have a key are all its values. -/
theorem valuesOf_of_forall_eq {pairs : List Pair} {key : Text} (h : ∀ pair ∈ pairs, pair.1 = key) :
    valuesOf pairs key = pairs.map Prod.snd := by
  rw [valuesOf, List.filter_eq_self.2 fun pair hpair => beq_iff_eq.2 (h pair hpair)]

theorem valuesOf_of_forall_ne {pairs : List Pair} {key : Text} (h : ∀ pair ∈ pairs, pair.1 ≠ key) :
    valuesOf pairs key = [] := by
  rw [valuesOf, List.filter_eq_nil_iff.2 fun pair hpair => by simpa using h pair hpair]
  rfl

/-- **Among pairs in groups, one for each of some keys, the values of a key are those of its
group.** -/
theorem valuesOf_flatMap {keys : List Text} (hnodup : keys.Nodup) {group : Text → List Pair}
    (hgroup : ∀ key, ∀ pair ∈ group key, pair.1 = key) (key : Text) :
    valuesOf (keys.flatMap group) key = if key ∈ keys then (group key).map Prod.snd else [] := by
  -- the group of a key that comes first is the only one, since no later one is for that key
  induction keys with
  | nil => rfl
  | cons first rest ih =>
    obtain ⟨hfresh, hnodup⟩ := List.nodup_cons.1 hnodup
    rw [List.flatMap_cons, valuesOf_append, ih hnodup]
    by_cases hkey : first = key
    · subst hkey
      rw [valuesOf_of_forall_eq (hgroup first), if_neg hfresh, if_pos List.mem_cons_self,
        List.append_nil]
    · have hnone : valuesOf (group first) key = [] := by
        refine valuesOf_of_forall_ne fun pair hpair => ?_
        rw [hgroup first pair hpair]
        exact hkey
      have hmem : key ∈ first :: rest ↔ key ∈ rest := by
        rw [List.mem_cons, or_iff_right fun hsame => hkey hsame.symm]
      rw [hnone, List.nil_append]
      simp only [hmem]

end Pair

namespace Params

variable {params : Params} {key value : Text}

/-- The values of a key are in order, each of them once. -/
theorem pairwise_values (params : Params) (key : Text) :
    (params.values key).Pairwise Text.Before := by
  rw [values, List.pairwise_map]
  refine (params.sorted.filter _).imp_of_mem fun {a b} ha hb hab => ?_
  have hsame : a.1 = b.1 := by
    rw [List.mem_filter, beq_iff_eq] at ha hb
    exact ha.2.trans hb.2.symm
  rcases hab with hkey | ⟨_, hvalue⟩
  · rw [hsame] at hkey
    exact absurd hkey (Text.before_irrefl _)
  · exact hvalue

/-- **The first value of a key is the least of its values.** -/
theorem first?_eq_some : params.first? key = some value ↔ (key, value) ∈ params ∧
    ∀ other, (key, other) ∈ params → other = value ∨ value.Before other := by
  have hsorted := pairwise_values params key
  simp only [first?, ← mem_values]
  cases hvalues : params.values key with
  | nil => simp
  | cons least rest =>
    rw [hvalues] at hsorted
    rw [List.head?_cons, Option.some.injEq]
    obtain ⟨hleast, -⟩ := List.pairwise_cons.1 hsorted
    constructor
    · rintro rfl
      refine ⟨List.mem_cons_self, fun other hother => ?_⟩
      rcases List.mem_cons.1 hother with rfl | hother
      · exact .inl rfl
      · exact .inr (hleast other hother)
    · rintro ⟨hmem, hall⟩
      rcases hall least List.mem_cons_self with h | h
      · exact h
      · rcases List.mem_cons.1 hmem with rfl | hmem
        · rfl
        · exact absurd (Text.before_trans h (hleast value hmem)) (Text.before_irrefl _)

/-- A value that is the only one of its key is the first one. -/
theorem first?_of_forall_eq (hmem : (key, value) ∈ params)
    (hall : ∀ other, (key, other) ∈ params → other = value) : params.first? key = some value :=
  first?_eq_some.2 ⟨hmem, fun other hother => .inl (hall other hother)⟩

/-- The first value is the same in a smaller set that has it. -/
theorem first?_of_subset {smaller : Params} (h : params.first? key = some value)
    (hmem : (key, value) ∈ smaller)
    (hsub : ∀ other, (key, other) ∈ smaller → (key, other) ∈ params) :
    smaller.first? key = some value :=
  first?_eq_some.2 ⟨hmem, fun other hother => (first?_eq_some.1 h).2 other (hsub other hother)⟩

theorem first?_eq_none : params.first? key = none ↔ ∀ value, (key, value) ∉ params := by
  simp only [first?, List.head?_eq_none_iff, ← mem_values]
  exact List.eq_nil_iff_forall_not_mem

/-- Two sets with the same values for a key have the same first value. -/
theorem first?_congr {other : Params} (h : ∀ value, (key, value) ∈ params ↔ (key, value) ∈ other) :
    params.first? key = other.first? key := by
  ext value
  rw [first?_eq_some, first?_eq_some, h value]
  simp only [h]

/-- Two sets with the same pairs of a key have the same values for it, in the same order. -/
theorem values_congr {other : Params} (h : ∀ value, (key, value) ∈ params ↔ (key, value) ∈ other) :
    params.values key = other.values key := by
  have hfilter : params.filter (· == key) = other.filter (· == key) := by
    refine ext fun pair => ?_
    rw [mem_filter, mem_filter]
    refine and_congr_left fun hkey => ?_
    obtain ⟨k, value⟩ := pair
    obtain rfl : k = key := by simpa using hkey
    exact h value
  exact congrArg (fun params => params.pairs.map Prod.snd) hfilter

/-- A value that is the only one of its key is all that is found under it. -/
theorem values_eq_singleton (hmem : (key, value) ∈ params)
    (hall : ∀ other, (key, other) ∈ params → other = value) : params.values key = [value] := by
  have hone : ∀ other, (key, other) ∈ params ↔ (key, other) ∈ ofList [(key, value)] := by
    intro other
    rw [mem_ofList, List.mem_singleton, Prod.mk.injEq, and_iff_right rfl]
    refine ⟨hall other, ?_⟩
    rintro rfl
    exact hmem
  rw [values_congr hone]
  simp [values, ofList, insertAll, insert, empty, Pair.place]

theorem contains_congr {other : Params}
    (h : ∀ value, (key, value) ∈ params ↔ (key, value) ∈ other) :
    params.contains key = other.contains key := by
  rw [Bool.eq_iff_iff, contains_iff, contains_iff]
  exact exists_congr h

theorem contains_eq_false : params.contains key = false ↔ params.values key = [] := by
  simp [contains]

/-- The first pair of a key. -/
def firstPair? (params : Params) (key : Text) : Option Pair :=
  (params.first? key).map fun value => (key, value)

theorem firstPair?_eq_some {pair : Pair} :
    params.firstPair? key = some pair ↔ params.first? key = some pair.2 ∧ pair.1 = key := by
  obtain ⟨k, v⟩ := pair
  simp only [firstPair?, Option.map_eq_some_iff, Prod.mk.injEq]
  constructor
  · rintro ⟨_, hfirst, rfl, rfl⟩
    exact ⟨hfirst, rfl⟩
  · rintro ⟨hfirst, rfl⟩
    exact ⟨v, hfirst, rfl, rfl⟩

/-- A header has the first of the values of a key. -/
theorem map_firstPair? (params : Params) (key : Text) :
    (params.firstPair? key).toList.map Prod.snd = (params.values key).take 1 := by
  rw [List.take_one, firstPair?, first?]
  cases (params.values key).head? <;> rfl

theorem headerText?_eq (params : Params) (key : Text) :
    params.headerText? key = (params.firstPair? key).map Pair.headerText := by
  rw [headerText?, firstPair?, Option.map_map]
  rfl

/-- The pairs of a key as a query has them; a key that the set lacks has the empty value. -/
def queryPairs (params : Params) (key : Text) : List Pair :=
  match params.values key with
  | [] => [(key, [])]
  | values => values.map fun value => (key, value)

theorem queryText_eq (params : Params) (key : Text) :
    params.queryText key = Text.join ['&'] ((params.queryPairs key).map Pair.queryText) := by
  unfold queryText queryPairs
  cases params.values key with
  | nil => simp [Text.join]
  | cons value rest => rw [List.map_map]; rfl

theorem queryPairs_ne_nil (params : Params) (key : Text) : params.queryPairs key ≠ [] := by
  unfold queryPairs
  split
  · simp
  · next hne => simpa using hne

/-- The pairs of a key that the set has are those in the set. -/
theorem mem_queryPairs {pair : Pair} (h : params.contains key = true) :
    pair ∈ params.queryPairs key ↔ pair ∈ params ∧ pair.1 = key := by
  obtain ⟨k, v⟩ := pair
  have hvalues : params.queryPairs key = (params.values key).map fun value => (key, value) := by
    unfold queryPairs
    split
    · next hnil =>
      rw [contains_eq_false.2 hnil] at h
      cases h
    · rfl
  rw [hvalues, List.mem_map]
  constructor
  · rintro ⟨value, hvalue, hpair⟩
    obtain ⟨rfl, rfl⟩ := Prod.mk.inj hpair
    exact ⟨mem_values.1 hvalue, rfl⟩
  · rintro ⟨hmem, rfl⟩
    exact ⟨v, mem_values.2 hmem, rfl⟩

/-- A query has the values of a key that there is. -/
theorem map_queryPairs (h : params.contains key = true) :
    (params.queryPairs key).map Prod.snd = params.values key := by
  unfold queryPairs
  split
  · next hnil =>
    rw [contains_eq_false.2 hnil] at h
    cases h
  · rw [List.map_map]
    exact List.map_id _

/-- The pairs of a key have it as their key. -/
theorem fst_of_mem_queryPairs {pair : Pair} (h : pair ∈ params.queryPairs key) : pair.1 = key := by
  unfold queryPairs at h
  split at h
  · rw [List.mem_singleton] at h
    rw [h]
  · obtain ⟨value, _, rfl⟩ := List.mem_map.1 h
    rfl

end Params

end OAuth
