import Mathlib.Data.Finset.Basic
import Mathlib.Data.Finset.Card
import OAuth.Proofs.Normalization

/-!
# What is in a set of parameters

Parameters are put together by adding, uniting, taking out and leaving out. However that is done,
they are no more than a finite set of pairs: what is looked up and what is listed is known from the
pairs alone, and so is what is stored for a key. Main statements: `Params.Build.stores_index`, what
is stored for each key along the way, and `Params.Build.refines_pairs`, what can be seen of it.
-/

namespace OAuth

namespace Pair

/-- The values that a key has in a set of pairs. -/
def valuesIn (pairs : Finset Pair) (key : Text) : Finset Text :=
  (pairs.filter fun pair => pair.1 = key).image Prod.snd

variable {pairs : Finset Pair} {key value : Text}

theorem mem_valuesIn : value ∈ valuesIn pairs key ↔ (key, value) ∈ pairs := by
  simp [valuesIn]

theorem valuesIn_eq_empty : valuesIn pairs key = ∅ ↔ ∀ value, (key, value) ∉ pairs := by
  simp only [Finset.eq_empty_iff_forall_notMem, mem_valuesIn]

/-- A field as a pair, in written form or as it is. -/
def ofField (isEncoded : Bool) (field : Form.Field) : Pair :=
  if isEncoded then field.pair.encode else field.pair

end Pair

/-! ## What is stored -/

/-- What is stored for each key, if anything is: a set of values, which nothing but the way in
which it is put together keeps from being empty. -/
abbrev Index := Text → Option (Finset Text)

namespace Index

/-- The values that there are to begin with for a key. -/
def start (index : Index) (key : Text) : Finset Text := (index key).getD ∅

/-- One more value for a key. -/
def put (index : Index) (pair : Pair) : Index :=
  Function.update index pair.1 (some (insert pair.2 (index.start pair.1)))

/-- The values of another index added, key by key. -/
def putAll (index other : Index) : Index := fun key =>
  match other key with
  | none => index key
  | some values => some (index.start key ∪ values)

/-- A key taken out with its values. -/
def remove (index : Index) (key : Text) : Index := Function.update index key none

/-- The keys that pass a test, with their values. -/
def keep (index : Index) (test : Text → Bool) : Index := fun key =>
  if test key then index key else none

/-- Whether an index stores what is in a set of pairs, and nothing for the keys that have no value
there. -/
def Stores (index : Index) (pairs : Finset Pair) : Prop := ∀ key,
  index key = if Pair.valuesIn pairs key = ∅ then none else some (Pair.valuesIn pairs key)

variable {index other : Index} {pairs pairs' : Finset Pair} {key : Text}

/-- No key is stored without a value. -/
theorem Stores.ne_empty (h : index.Stores pairs) (key : Text) : index key ≠ some ∅ := by
  rw [h key]
  split
  · exact nofun
  · next hne => exact fun hempty => hne (Option.some.inj hempty)

theorem Stores.start_eq (h : index.Stores pairs) (key : Text) :
    index.start key = Pair.valuesIn pairs key := by
  rw [start, h key]
  split
  · next hempty => exact hempty.symm
  · rfl

theorem stores_none : Stores (fun _ => none) ∅ := fun _ => rfl

/-- **Adding a pair** stores its value with those that its key has. -/
theorem Stores.put (h : index.Stores pairs) (pair : Pair) :
    (index.put pair).Stores (insert pair pairs) := by
  intro key
  by_cases hkey : key = pair.1
  · subst hkey
    have hvalues : Pair.valuesIn (insert pair pairs) pair.1 =
        insert pair.2 (Pair.valuesIn pairs pair.1) := by
      rw [Pair.valuesIn, Finset.filter_insert, if_pos rfl, Finset.image_insert]
      rfl
    rw [Index.put, Function.update_self, h.start_eq, hvalues,
      if_neg (Finset.insert_ne_empty _ _)]
  · have hvalues : Pair.valuesIn (insert pair pairs) key = Pair.valuesIn pairs key := by
      rw [Pair.valuesIn, Finset.filter_insert, if_neg fun hsame => hkey hsame.symm]
      rfl
    rw [Index.put, Function.update_of_ne hkey, hvalues, h key]

/-- **Uniting** stores the values that a key has in one set or the other. -/
theorem Stores.putAll (h : index.Stores pairs) (hother : other.Stores pairs') :
    (index.putAll other).Stores (pairs ∪ pairs') := by
  intro key
  have hvalues : Pair.valuesIn (pairs ∪ pairs') key =
      Pair.valuesIn pairs key ∪ Pair.valuesIn pairs' key := by
    rw [Pair.valuesIn, Finset.filter_union, Finset.image_union]
    rfl
  rw [Index.putAll, hother key, hvalues]
  by_cases hempty : Pair.valuesIn pairs' key = ∅
  · rw [if_pos hempty, hempty, Finset.union_empty]
    exact h key
  · have hne : Pair.valuesIn pairs key ∪ Pair.valuesIn pairs' key ≠ ∅ := fun hunion =>
      hempty (Finset.union_eq_empty.1 hunion).2
    rw [if_neg hempty, if_neg hne]
    exact congrArg some (congrArg (· ∪ _) (h.start_eq key))

/-- **Keeping some keys** stores what they have. -/
theorem Stores.keep (h : index.Stores pairs) (test : Text → Bool) :
    (index.keep test).Stores (pairs.filter fun pair => test pair.1 = true) := by
  intro key
  rw [Index.keep, h key]
  by_cases htest : test key = true
  · have hvalues : Pair.valuesIn (pairs.filter fun pair => test pair.1 = true) key =
        Pair.valuesIn pairs key := by
      ext value
      rw [Pair.mem_valuesIn, Pair.mem_valuesIn, Finset.mem_filter, and_iff_left htest]
    rw [if_pos htest, hvalues]
  · have hvalues : Pair.valuesIn (pairs.filter fun pair => test pair.1 = true) key = ∅ := by
      rw [Pair.valuesIn_eq_empty]
      intro value hmem
      exact htest (Finset.mem_filter.1 hmem).2
    rw [if_neg htest, if_pos hvalues]

/-- To take out a key is to keep the others. -/
theorem remove_eq_keep (index : Index) (key : Text) :
    index.remove key = index.keep fun other => other ≠ key := by
  funext other
  by_cases hkey : other = key
  · subst hkey
    simp [remove, keep]
  · simp [remove, keep, hkey]

end Index

namespace Params

/-! ## How parameters are put together -/

/-- Parameters as they are put together from nothing. -/
inductive Build where
  /-- nothing -/
  | empty
  /-- one more pair in written form -/
  | put (build : Build) (pair : Pair)
  /-- one more pair, which is put into written form -/
  | putEncoded (build : Build) (key value : Text)
  /-- some more fields, which may be put into written form -/
  | putPairs (build : Build) (fields : List Form.Field) (isEncoded : Bool)
  /-- all of other parameters -/
  | putAll (build other : Build)
  /-- a key taken out -/
  | remove (build : Build) (key : Text)
  /-- the parameters of the protocol only -/
  | protocolOnly (build : Build)

namespace Build

/-- The parameters that are put together. -/
def params : Build → Params
  | empty => Params.empty
  | put build pair => build.params.insert pair
  | putEncoded build key value => build.params.insertEncoded key value
  | putPairs build fields isEncoded =>
    if isEncoded then build.params.insertFields fields
    else build.params.insertAll (fields.map Form.Field.pair)
  | putAll build other => build.params.union other.params
  | remove build key => build.params.erase key
  | protocolOnly build => build.params.protocolOnly

/-- What is stored for each key, when sets of values are kept by key. -/
def index : Build → Index
  | empty => fun _ => none
  | put build pair => build.index.put pair
  | putEncoded build key value => build.index.put (Pair.encode (key, value))
  | putPairs build fields isEncoded =>
    (fields.map (Pair.ofField isEncoded)).foldl Index.put build.index
  | putAll build other => build.index.putAll other.index
  | remove build key => build.index.remove key
  | protocolOnly build => build.index.keep Key.isProtocol

/-- The set of pairs that is meant. -/
def pairs : Build → Finset Pair
  | empty => ∅
  | put build pair => Insert.insert pair build.pairs
  | putEncoded build key value =>
    Insert.insert (Percent.encode key, Percent.encode value) build.pairs
  | putPairs build fields isEncoded =>
    build.pairs ∪ (fields.map (Pair.ofField isEncoded)).toFinset
  | putAll build other => build.pairs ∪ other.pairs
  | remove build key => build.pairs.filter fun pair => pair.1 ≠ key
  | protocolOnly build =>
    build.pairs.filter fun pair =>
      "oauth_".toList <+: pair.1 ∨ "x_oauth_".toList <+: pair.1

end Build

theorem isProtocol_iff {key : Text} :
    Key.isProtocol key = true ↔ "oauth_".toList <+: key ∨ "x_oauth_".toList <+: key := by
  rw [Key.isProtocol, Bool.or_eq_true, Key.isReserved, List.isPrefixOf_iff_prefix,
    List.isPrefixOf_iff_prefix]
  exact Iff.rfl

/-- The pairs of the protocol by the test that is made of their keys. -/
theorem Build.pairs_protocolOnly (build : Build) : build.protocolOnly.pairs =
    build.pairs.filter fun pair => Key.isProtocol pair.1 = true := by
  ext pair
  rw [Build.pairs, Finset.mem_filter, Finset.mem_filter, isProtocol_iff]

/-- Pairs that are added one by one are stored like a set of them. -/
theorem stores_foldl_put {index : Index} {pairs : Finset Pair} (h : index.Stores pairs)
    (more : List Pair) : (more.foldl Index.put index).Stores (pairs ∪ more.toFinset) := by
  -- the rest is added to what the first pair leaves, so index and pairs vary in the induction
  induction more generalizing index pairs with
  | nil => simpa using h
  | cons first rest ih =>
    have hrest := ih (h.put first)
    rwa [Finset.insert_union, ← Finset.union_insert, ← List.toFinset_cons] at hrest

/-- **What is stored along the way** is what is in the set of pairs that is meant. -/
theorem Build.stores_index (build : Build) : build.index.Stores build.pairs := by
  induction build with
  | empty => exact Index.stores_none
  | put build pair ih => exact ih.put pair
  | putEncoded build key value ih => exact ih.put _
  | putPairs build fields isEncoded ih => exact stores_foldl_put ih _
  | putAll build other ih ihother => exact ih.putAll ihother
  | remove build key ih =>
    have hpairs : (build.remove key).pairs =
        build.pairs.filter fun pair => decide (pair.1 ≠ key) = true := by
      ext pair
      rw [pairs, Finset.mem_filter, Finset.mem_filter, decide_eq_true_eq]
    rw [hpairs, index, Index.remove_eq_keep]
    exact ih.keep fun other => other ≠ key
  | protocolOnly build ih =>
    rw [pairs_protocolOnly]
    exact ih.keep Key.isProtocol

/-- **The pairs of parameters** are those of the set that is meant. -/
theorem Build.mem_params {build : Build} {pair : Pair} :
    pair ∈ build.params ↔ pair ∈ build.pairs := by
  induction build generalizing pair with
  | empty => exact iff_of_false List.not_mem_nil (Finset.notMem_empty pair)
  | put build new ih => rw [params, pairs, mem_insert, Finset.mem_insert, ih]
  | putEncoded build key value ih =>
    rw [params, pairs, insertEncoded, mem_insert, Finset.mem_insert, ih, Pair.encode]
  | putPairs build fields isEncoded ih =>
    rw [pairs, Finset.mem_union, List.mem_toFinset, ← ih, params]
    cases isEncoded with
    | true => exact mem_insertAll
    | false => exact mem_insertAll
  | putAll build other ih ihother => rw [params, pairs, mem_union, Finset.mem_union, ih, ihother]
  | remove build key ih => rw [params, pairs, mem_erase, Finset.mem_filter, ih]
  | protocolOnly build ih =>
    rw [pairs_protocolOnly, params, Params.protocolOnly, mem_filter, Finset.mem_filter, ih]

/-! ## What can be seen -/

/-- Whether a list has the texts of a set, in the order of their bytes and each once. -/
structure Lists (texts : List Text) (set : Finset Text) : Prop where
  /-- the texts are those of the set -/
  mem : ∀ text, text ∈ texts ↔ text ∈ set
  /-- each text comes before those behind it -/
  increasing : texts.Pairwise fun s t => Utf8.Precedes (Utf8.encode s) (Utf8.encode t)

/-- What can be seen of parameters, if they are no more than a set of pairs. -/
structure Refines (params : Params) (pairs : Finset Pair) : Prop where
  /-- the pairs are those of the set -/
  mem : ∀ pair, pair ∈ params.pairs ↔ pair ∈ pairs
  /-- each pair comes before those behind it in the order of bytes, so none is repeated -/
  increasing : params.pairs.Pairwise Pair.Precedes
  /-- the size is the number of pairs in the set -/
  size : params.size = pairs.card
  /-- no pairs are there if there are none in the set -/
  isEmpty : params.isEmpty = true ↔ pairs = ∅
  /-- a key is there if it has a value -/
  contains : ∀ key, params.contains key = true ↔ (Pair.valuesIn pairs key).Nonempty
  /-- the keys are those in the set, in order -/
  keys : Lists params.keys (pairs.image Prod.fst)
  /-- the values of a key are those in the set, in order; a key without values has none -/
  get? : ∀ key values, params.get? key = some values ↔
    (Pair.valuesIn pairs key).Nonempty ∧ Lists values (Pair.valuesIn pairs key)
  /-- the entries are the keys with what they get -/
  entries : params.entries.map Prod.fst = params.keys ∧
    ∀ key values, (key, values) ∈ params.entries ↔ params.get? key = some values
  /-- the first value of a key is its least -/
  first? : ∀ key value, params.first? key = some value ↔ value ∈ Pair.valuesIn pairs key ∧
    ∀ other ∈ Pair.valuesIn pairs key,
      other = value ∨ Utf8.Precedes (Utf8.encode value) (Utf8.encode other)
  /-- the first value of a key can be had decoded, too -/
  firstDecoded? : ∀ key, params.firstDecoded? key = (params.first? key).map Percent.decode
  /-- a header has the first value of a key -/
  headerText? : ∀ key, params.headerText? key =
    (params.first? key).map fun value => key ++ "=\"".toList ++ value ++ "\"".toList
  /-- taking out a key leaves all but what was got of it -/
  erase : ∀ key, (params.erase key).get? key = none ∧ ∀ pair, pair ∈ params.pairs ↔
    pair ∈ (params.erase key).pairs ∨
      pair.1 = key ∧ ∃ values, params.get? key = some values ∧ pair.2 ∈ values
  /-- a query has all the values of a key, in order, and the empty one for a key without any -/
  queryText : ∀ key, params.queryText key = (params.get? key).elim (key ++ "=".toList)
    fun values => Text.join ['&'] (values.map fun value => key ++ "=".toList ++ value)

section Observers

variable {params : Params} {key value : Text} {values : List Text}

theorem Lists.before {texts : List Text} {set : Finset Text} (h : Lists texts set) :
    texts.Pairwise Text.Before := h.increasing.imp fun hprecedes =>
  Utf8.precedes_encode_iff.1 hprecedes

/-- **There is one list of a set.** -/
theorem Lists.unique {texts texts' : List Text} {set : Finset Text} (h : Lists texts set)
    (h' : Lists texts' set) : texts = texts' := by
  have hperm : texts.Perm texts' := by
    have hne : ∀ {s t : Text}, s.Before t → s ≠ t := fun hbefore hsame =>
      Text.before_irrefl _ (hsame ▸ hbefore)
    refine (List.perm_ext_iff_of_nodup (h.before.imp hne) (h'.before.imp hne)).2 fun text => ?_
    rw [h.mem, h'.mem]
  refine List.Perm.eq_of_pairwise (fun s t _ _ hst hts => ?_) h.before h'.before hperm
  exact absurd (Text.before_trans hst hts) (Text.before_irrefl s)

theorem get?_eq_some :
    params.get? key = some values ↔ params.values key = values ∧ values ≠ [] := by
  unfold get?
  cases params.values key with
  | nil => simp [eq_comm]
  | cons first rest =>
    simp only [Option.some.injEq]
    exact ⟨fun heq => ⟨heq, heq ▸ List.cons_ne_nil first rest⟩, fun h => h.1⟩

theorem get?_eq_none : params.get? key = none ↔ params.values key = [] := by
  unfold get?
  cases params.values key <;> simp

theorem mem_keys : key ∈ params.keys ↔ ∃ value, (key, value) ∈ params := by
  rw [keys, List.mem_eraseDups, List.mem_map]
  constructor
  · rintro ⟨⟨k, value⟩, hmem, rfl⟩
    exact ⟨value, hmem⟩
  · rintro ⟨value, hmem⟩
    exact ⟨(key, value), hmem, rfl⟩

/-- The keys are in order, each of them once. -/
theorem pairwise_keys (params : Params) : params.keys.Pairwise Text.Before := by
  refine Text.pairwise_eraseDups (List.pairwise_map.2 (params.sorted.imp fun {a b} hab => ?_))
  rcases hab with hkey | ⟨hsame, -⟩
  · exact .inr hkey
  · exact .inl hsame

theorem mem_entries : (key, values) ∈ params.entries ↔ params.get? key = some values := by
  rw [entries, List.mem_map, get?_eq_some]
  constructor
  · rintro ⟨k, hkey, hentry⟩
    obtain ⟨rfl, rfl⟩ := Prod.mk.inj hentry
    obtain ⟨value, hmem⟩ := mem_keys.1 hkey
    exact ⟨rfl, List.ne_nil_of_mem (mem_values.2 hmem)⟩
  · rintro ⟨rfl, hne⟩
    obtain ⟨value, hvalue⟩ := List.exists_mem_of_ne_nil _ hne
    exact ⟨key, mem_keys.2 ⟨value, mem_values.1 hvalue⟩, rfl⟩

theorem get?_erase : (params.erase key).get? key = none := by
  rw [get?_eq_none, List.eq_nil_iff_forall_not_mem]
  intro value hvalue
  exact (mem_erase.1 (mem_values.1 hvalue)).2 rfl

/-- A pair is left when a key is taken out, or its value is one of those got of the key. -/
theorem mem_erase_or {pair : Pair} : pair ∈ params ↔ pair ∈ params.erase key ∨
    pair.1 = key ∧ ∃ values, params.get? key = some values ∧ pair.2 ∈ values := by
  rw [mem_erase]
  constructor
  · intro hmem
    by_cases hkey : pair.1 = key
    · have hvalue : pair.2 ∈ params.values key := mem_values.2 (hkey ▸ hmem)
      exact .inr ⟨hkey, _, get?_eq_some.2 ⟨rfl, List.ne_nil_of_mem hvalue⟩, hvalue⟩
    · exact .inl ⟨hmem, hkey⟩
  · rintro (⟨hmem, -⟩ | ⟨rfl, values, hget, hvalue⟩)
    · exact hmem
    · obtain ⟨rfl, -⟩ := get?_eq_some.1 hget
      exact mem_values.1 hvalue

theorem queryText_eq_elim (params : Params) (key : Text) :
    params.queryText key = (params.get? key).elim (key ++ "=".toList)
      fun values => Text.join ['&'] (values.map fun value => key ++ "=".toList ++ value) := by
  have hpair : ∀ value : Text, Pair.queryText (key, value) = key ++ "=".toList ++ value := by
    intro value
    simp [Pair.queryText]
  unfold queryText get?
  simp only [hpair, List.append_nil]
  split <;> rfl

variable {pairs : Finset Pair}

theorem lists_values (h : ∀ pair, pair ∈ params ↔ pair ∈ pairs) (key : Text) :
    Lists (params.values key) (Pair.valuesIn pairs key) where
  mem value := by rw [mem_values, h, Pair.mem_valuesIn]
  increasing := (params.pairwise_values key).imp Utf8.precedes_encode

theorem lists_keys (h : ∀ pair, pair ∈ params ↔ pair ∈ pairs) :
    Lists params.keys (pairs.image Prod.fst) where
  mem key := by simp [mem_keys, h]
  increasing := params.pairwise_keys.imp Utf8.precedes_encode

/-- **All that can be seen** of parameters is known from which pairs are in them. -/
theorem refines (h : ∀ pair, pair ∈ params ↔ pair ∈ pairs) : params.Refines pairs where
  mem := h
  increasing := params.sorted.imp Pair.precedes_iff.2
  size := by
    have hnodup : params.pairs.Nodup := params.sorted.imp fun hab heq => by
      subst heq
      exact Pair.before_irrefl _ hab
    have hset : params.pairs.toFinset = pairs := by
      ext pair
      rw [List.mem_toFinset]
      exact h pair
    rw [size, ← hset, List.toFinset_card_of_nodup hnodup]
  isEmpty := by
    rw [isEmpty, List.isEmpty_iff, List.eq_nil_iff_forall_not_mem,
      Finset.eq_empty_iff_forall_notMem]
    exact forall_congr' fun pair => not_congr (h pair)
  contains key := by
    rw [contains_iff]
    simp only [Finset.Nonempty, Pair.mem_valuesIn, h]
  keys := lists_keys h
  get? key values := by
    have hlists := lists_values h key
    rw [get?_eq_some]
    constructor
    · rintro ⟨rfl, hne⟩
      obtain ⟨value, hvalue⟩ := List.exists_mem_of_ne_nil _ hne
      exact ⟨⟨value, (hlists.mem value).1 hvalue⟩, hlists⟩
    · rintro ⟨⟨value, hvalue⟩, hvalues⟩
      exact ⟨hlists.unique hvalues, List.ne_nil_of_mem ((hvalues.mem value).2 hvalue)⟩
  entries := by
    refine ⟨?_, fun key values => mem_entries⟩
    rw [entries, List.map_map]
    exact List.map_id _
  first? key value := by
    rw [first?_eq_some]
    simp only [Pair.mem_valuesIn, h, Utf8.precedes_encode_iff]
  firstDecoded? key := rfl
  headerText? key := by
    rw [headerText?]
    exact congrArg (Option.map · _) (funext fun value => by simp [Pair.headerText])
  erase key := ⟨get?_erase, fun pair => mem_erase_or⟩
  queryText key := params.queryText_eq_elim key

end Observers

namespace Build

variable {build other : Build}

theorem refines_params (build : Build) : build.params.Refines build.pairs :=
  refines fun _ => mem_params

/-- Parameters are the same if the same set of pairs is meant. -/
theorem params_eq_iff : build.params = other.params ↔ build.pairs = other.pairs := by
  constructor
  · intro heq
    ext pair
    rw [← mem_params, ← mem_params, heq]
  · intro heq
    refine Params.ext fun pair => ?_
    rw [mem_params, mem_params, heq]

/-- What is got of a key is what is stored for it along the way. -/
theorem get?_toFinset (build : Build) (key : Text) :
    (build.params.get? key).map List.toFinset = build.index key := by
  have hmem : ∀ pair, pair ∈ build.params ↔ pair ∈ build.pairs := fun _ => mem_params
  have hlists := lists_values hmem key
  have hset : (build.params.values key).toFinset = Pair.valuesIn build.pairs key := by
    ext value
    rw [List.mem_toFinset, hlists.mem]
  rw [build.stores_index key, ← hset]
  unfold get?
  cases build.params.values key with
  | nil => rfl
  | cons first rest => simp

/-- **Parameters are a set of pairs**, however they are put together. What is seen of them is seen
of the set, no key is stored without a value, and it makes no difference in which order pairs are
added or sets are united. -/
theorem refines_pairs (build : Build) :
    build.params.Refines build.pairs ∧
      (∀ key, (build.params.get? key).map List.toFinset = build.index key ∧
        build.index key ≠ some ∅) ∧
      (∀ other : Build, build.params = other.params ↔ build.pairs = other.pairs) ∧
      (∀ first second : List Pair, first.toFinset = second.toFinset →
        build.params.insertAll first = build.params.insertAll second) ∧
      (∀ other : Build, build.params.union other.params = other.params.union build.params) ∧
      (∀ other third : Build, (build.params.union other.params).union third.params =
        build.params.union (other.params.union third.params)) ∧
      build.params.union build.params = build.params := by
  refine ⟨build.refines_params, fun key => ⟨build.get?_toFinset key, ?_⟩,
    fun other => params_eq_iff, fun first second hset => ?_, fun other => ?_,
    fun other third => ?_, ?_⟩
  · exact build.stores_index.ne_empty key
  · refine Params.ext fun pair => ?_
    rw [mem_insertAll, mem_insertAll, ← List.mem_toFinset, hset, List.mem_toFinset]
  · have hcomm : (build.putAll other).params = (other.putAll build).params :=
      params_eq_iff.2 (Finset.union_comm _ _)
    exact hcomm
  · have hassoc : ((build.putAll other).putAll third).params =
        (build.putAll (other.putAll third)).params := params_eq_iff.2 (Finset.union_assoc _ _ _)
    exact hassoc
  · have hself : (build.putAll build).params = build.params :=
      params_eq_iff.2 (Finset.union_self _)
    exact hself

/-- Parameters that are put together in every way. -/
def mixed : Build :=
  (((((empty.putEncoded "b/".toList "2".toList).putPairs
      [("x_oauth_a".toList, none), ("b/".toList, some "1".toList)] true).putAll
    (empty.put ("oauth_c".toList, "3".toList))).put ("d".toList, "4".toList)).remove
      "d".toList)

/-- The order in which pairs are added, and how often, makes no difference. -/
theorem refines_pairs_mixed :
    [("d".toList, "5".toList), ("d".toList, "4".toList)].toFinset =
        [("d".toList, "4".toList), ("d".toList, "5".toList), ("d".toList, "4".toList)].toFinset ∧
      mixed.params.insertAll [("d".toList, "5".toList), ("d".toList, "4".toList)] =
        mixed.params.insertAll
          [("d".toList, "4".toList), ("d".toList, "5".toList), ("d".toList, "4".toList)] ∧
      mixed.params.get? "b%2F".toList = some ["1".toList, "2".toList] ∧
      mixed.index "d".toList = none := by
  have hset : [("d".toList, "5".toList), ("d".toList, "4".toList)].toFinset =
      [("d".toList, "4".toList), ("d".toList, "5".toList), ("d".toList, "4".toList)].toFinset := by
    decide
  obtain ⟨-, hindex, -, horder, -⟩ := mixed.refines_pairs
  refine ⟨hset, horder _ _ hset, by decide +kernel, ?_⟩
  rw [← (hindex _).1, show mixed.params.get? "d".toList = none by decide +kernel]
  rfl

end Build

end Params

end OAuth
