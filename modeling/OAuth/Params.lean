import OAuth.Form
import OAuth.Protocol
import OAuth.Text.Order

/-!
# Parameters

The parameters of a request, as a finite set of pairs of a key and a value in written form. The
set is kept as its list in canonical order, by key and then by value, which is the order of the
base string; so two sets with the same pairs are equal (`Params.ext`).

The main statements describe each operation by the pairs that are in its result:
`Params.mem_insert`, `Params.mem_insertAll`, `Params.mem_union` and `Params.mem_filter`.
-/

namespace OAuth

/-- A key and a value. -/
abbrev Pair := Text × Text

/-- Canonical order: by key, then by value. -/
def Pair.Before (a b : Pair) : Prop := a.1.Before b.1 ∨ a.1 = b.1 ∧ a.2.Before b.2

instance (a b : Pair) : Decidable (a.Before b) := by unfold Pair.Before; infer_instance

/-- A key and a value in written form. -/
def Pair.encode (pair : Pair) : Pair := (Percent.encode pair.1, Percent.encode pair.2)

/-- A key and a value joined as in a query. -/
def Pair.queryText (pair : Pair) : Text := pair.1 ++ '=' :: pair.2

/-- A key and a value as a header has them, the value in quotes. -/
def Pair.headerText (pair : Pair) : Text := pair.1 ++ '=' :: '"' :: (pair.2 ++ ['"'])

/-- A field as a pair; a key that stands alone has the empty value. -/
def Form.Field.pair (field : Form.Field) : Pair := (field.1, field.2.getD [])

namespace Pair

theorem before_irrefl (a : Pair) : ¬ a.Before a := by
  rintro (h | ⟨_, h⟩) <;> exact Text.before_irrefl _ h

theorem before_trans {a b c : Pair} (hab : a.Before b) (hbc : b.Before c) : a.Before c := by
  obtain ⟨a₁, a₂⟩ := a
  obtain ⟨b₁, b₂⟩ := b
  obtain ⟨c₁, c₂⟩ := c
  rcases hab with h | ⟨rfl, h⟩ <;> rcases hbc with h' | ⟨rfl, h'⟩
  · exact .inl (Text.before_trans h h')
  · exact .inl h
  · exact .inl h'
  · exact .inr ⟨rfl, Text.before_trans h h'⟩

/-- Of two pairs one comes first, unless they are equal. -/
theorem before_total (a b : Pair) : a.Before b ∨ a = b ∨ b.Before a := by
  obtain ⟨a₁, a₂⟩ := a
  obtain ⟨b₁, b₂⟩ := b
  rcases Text.before_total a₁ b₁ with h | rfl | h
  · exact .inl (.inl h)
  · rcases Text.before_total a₂ b₂ with h | rfl | h
    · exact .inl (.inr ⟨rfl, h⟩)
    · exact .inr (.inl rfl)
    · exact .inr (.inr (.inr ⟨rfl, h⟩))
  · exact .inr (.inr (.inl h))

/-- A pair put in its place among pairs in canonical order. -/
def place (pair : Pair) : List Pair → List Pair
  | [] => [pair]
  | next :: rest =>
    if pair = next then next :: rest
    else if pair.Before next then pair :: next :: rest
    else next :: place pair rest

theorem mem_place {pair q : Pair} {pairs : List Pair} :
    q ∈ place pair pairs ↔ q = pair ∨ q ∈ pairs := by
  induction pairs with
  | nil => simp [place]
  | cons next rest ih =>
    simp only [place]
    split
    · next h => subst h; simp
    split
    · simp
    · simp [ih, or_left_comm]

theorem pairwise_place {pair : Pair} {pairs : List Pair} (h : pairs.Pairwise Before) :
    (place pair pairs).Pairwise Before := by
  induction pairs with
  | nil => simp [place]
  | cons next rest ih =>
    obtain ⟨hnext, hrest⟩ := List.pairwise_cons.1 h
    simp only [place]
    split
    · exact h
    split
    · next hb =>
      refine List.pairwise_cons.2 ⟨fun q hq => ?_, h⟩
      rcases List.mem_cons.1 hq with rfl | hq
      · exact hb
      · exact before_trans hb (hnext q hq)
    · next hne hb =>
      refine List.pairwise_cons.2 ⟨fun q hq => ?_, ih hrest⟩
      rcases mem_place.1 hq with rfl | hq
      · rcases before_total next q with h' | h' | h'
        · exact h'
        · exact absurd h'.symm hne
        · exact absurd h' hb
      · exact hnext q hq

/-- Pairs in canonical order are known from their membership. -/
theorem eq_of_mem_iff {as bs : List Pair} (ha : as.Pairwise Before) (hb : bs.Pairwise Before)
    (h : ∀ q, q ∈ as ↔ q ∈ bs) : as = bs := by
  induction as generalizing bs with
  | nil =>
    cases bs with
    | nil => rfl
    | cons b bs => simp at h; exact absurd rfl (h b.1 b.2).1
  | cons a as ih =>
    cases bs with
    | nil => exact absurd ((h a).1 List.mem_cons_self) (by simp)
    | cons b bs =>
      obtain ⟨haFirst, haRest⟩ := List.pairwise_cons.1 ha
      obtain ⟨hbFirst, hbRest⟩ := List.pairwise_cons.1 hb
      have hab : a = b := by
        rcases List.mem_cons.1 ((h a).1 List.mem_cons_self) with hab | hab
        · exact hab
        rcases List.mem_cons.1 ((h b).2 List.mem_cons_self) with hba | hba
        · exact hba.symm
        · exact absurd (before_trans (haFirst b hba) (hbFirst a hab)) (before_irrefl a)
      subst hab
      refine congrArg (a :: ·) (ih haRest hbRest fun q => ?_)
      constructor
      · intro hq
        rcases List.mem_cons.1 ((h q).1 (List.mem_cons_of_mem _ hq)) with rfl | hq'
        · exact absurd (haFirst q hq) (before_irrefl q)
        · exact hq'
      · intro hq
        rcases List.mem_cons.1 ((h q).2 (List.mem_cons_of_mem _ hq)) with rfl | hq'
        · exact absurd (hbFirst q hq) (before_irrefl q)
        · exact hq'

end Pair

/-- A set of pairs in written form, listed in canonical order. -/
structure Params where
  /-- the pairs -/
  pairs : List Pair
  /-- the pairs are in canonical order, each of them once -/
  sorted : pairs.Pairwise Pair.Before
  deriving DecidableEq

namespace Params

/-- No pairs. -/
def empty : Params := ⟨[], .nil⟩

instance : Inhabited Params := ⟨empty⟩

instance : Membership Pair Params := ⟨fun params pair => pair ∈ params.pairs⟩

theorem mem_def {pair : Pair} {params : Params} : pair ∈ params ↔ pair ∈ params.pairs := .rfl

/-- **A set is known from its pairs.** -/
theorem ext {a b : Params} (h : ∀ pair, pair ∈ a ↔ pair ∈ b) : a = b := by
  obtain ⟨as, ha⟩ := a
  obtain ⟨bs, hb⟩ := b
  obtain rfl : as = bs := Pair.eq_of_mem_iff ha hb h
  rfl

/-! ## Adding -/

/-- The set with one more pair. -/
def insert (params : Params) (pair : Pair) : Params :=
  ⟨pair.place params.pairs, Pair.pairwise_place params.sorted⟩

/-- The set with more pairs. -/
def insertAll (params : Params) (pairs : List Pair) : Params := pairs.foldl insert params

/-- The set with a pair put into written form. -/
def insertEncoded (params : Params) (key value : Text) : Params :=
  params.insert (Pair.encode (key, value))

/-- The set with fields put into written form. -/
def insertFields (params : Params) (fields : List Form.Field) : Params :=
  params.insertAll (fields.map fun field => field.pair.encode)

/-- The pairs of both sets. -/
def union (a b : Params) : Params := a.insertAll b.pairs

/-- The set of some pairs. -/
def ofList (pairs : List Pair) : Params := empty.insertAll pairs

theorem mem_insert {params : Params} {pair q : Pair} :
    q ∈ params.insert pair ↔ q = pair ∨ q ∈ params := Pair.mem_place

theorem mem_insertAll {params : Params} {pairs : List Pair} {q : Pair} :
    q ∈ params.insertAll pairs ↔ q ∈ params ∨ q ∈ pairs := by
  induction pairs generalizing params with
  | nil => simp [insertAll]
  | cons pair pairs ih =>
    have hstep : params.insertAll (pair :: pairs) = (params.insert pair).insertAll pairs := rfl
    rw [hstep, ih, mem_insert, List.mem_cons]
    constructor
    · rintro ((h | h) | h) <;> simp [h]
    · rintro (h | h | h) <;> simp [h]

theorem mem_union {a b : Params} {q : Pair} : q ∈ a.union b ↔ q ∈ a ∨ q ∈ b := mem_insertAll

theorem not_mem_empty (q : Pair) : q ∉ empty := List.not_mem_nil

theorem mem_ofList {pairs : List Pair} {q : Pair} : q ∈ ofList pairs ↔ q ∈ pairs := by
  rw [ofList, mem_insertAll, or_iff_right (not_mem_empty q)]

/-! ## Leaving out -/

/-- The pairs whose key passes a test. -/
def filter (params : Params) (keep : Text → Bool) : Params :=
  ⟨params.pairs.filter fun pair => keep pair.1, params.sorted.filter _⟩

/-- The set without the pairs of a key. -/
def erase (params : Params) (key : Text) : Params := params.filter fun k => k ≠ key

/-- The pairs of the protocol and its extensions. -/
def protocolOnly (params : Params) : Params := params.filter Key.isProtocol

theorem mem_filter {params : Params} {keep : Text → Bool} {q : Pair} :
    q ∈ params.filter keep ↔ q ∈ params ∧ keep q.1 = true := List.mem_filter

theorem mem_erase {params : Params} {key : Text} {q : Pair} :
    q ∈ params.erase key ↔ q ∈ params ∧ q.1 ≠ key := by
  simp [erase, mem_filter]

/-! ## Looking up -/

/-- The values of a key, in order. -/
def values (params : Params) (key : Text) : List Text :=
  (params.pairs.filter fun pair => pair.1 == key).map Prod.snd

/-- The values of a key that the set has. -/
def get? (params : Params) (key : Text) : Option (List Text) :=
  match params.values key with
  | [] => none
  | values => some values

/-- Whether the set has a pair of a key. -/
def contains (params : Params) (key : Text) : Bool := !(params.values key).isEmpty

/-- The least value of a key. -/
def first? (params : Params) (key : Text) : Option Text := (params.values key).head?

/-- The least value of a key, decoded. -/
def firstDecoded? (params : Params) (key : Text) : Option Text :=
  (params.first? key).map Percent.decode

/-- The pairs of a key as in a query; a key that the set lacks is written with no value. -/
def queryText (params : Params) (key : Text) : Text :=
  match params.values key with
  | [] => Pair.queryText (key, [])
  | values => Text.join ['&'] (values.map fun value => Pair.queryText (key, value))

/-- A key and its least value as in a header. -/
def headerText? (params : Params) (key : Text) : Option Text :=
  (params.first? key).map fun value => Pair.headerText (key, value)

/-- The number of pairs. -/
def size (params : Params) : Nat := params.pairs.length

/-- Whether there are no pairs. -/
def isEmpty (params : Params) : Bool := params.pairs.isEmpty

/-- The keys, in order, each once. -/
def keys (params : Params) : List Text := (params.pairs.map Prod.fst).eraseDups

/-- Each key with its values. -/
def entries (params : Params) : List (Text × List Text) :=
  params.keys.map fun key => (key, params.values key)

theorem mem_values {params : Params} {key value : Text} :
    value ∈ params.values key ↔ (key, value) ∈ params := by
  simp [values, mem_def]

theorem contains_iff {params : Params} {key : Text} :
    params.contains key = true ↔ ∃ value, (key, value) ∈ params := by
  cases h : params.values key with
  | nil => simp [contains, h, ← mem_values]
  | cons value rest =>
    have hmem : (key, value) ∈ params := mem_values.1 (by simp [h])
    simpa [contains, h] using ⟨value, hmem⟩

theorem first?_mem {params : Params} {key value : Text} (h : params.first? key = some value) :
    (key, value) ∈ params := mem_values.1 (List.mem_of_head? h)

end Params

end OAuth
