import Mathlib.Control.Monad.Basic
import OAuth.Proofs.Url

/-!
# Base strings are unambiguous

A base string has three parts, each encoded, so a `&` in it stands between two of them. The last
part is a form once it is decoded, and the pairs of a form are known from its text. Main statement:
`BaseString.make_eq_ok_iff`, a base string tells the method, the normal form of the URL and the
pairs that count.
-/

namespace OAuth

namespace Form

/-- Pairs in written form are known from their fields. -/
theorem map_field_injective {pairs pairs' : List Pair} (h : ∀ pair ∈ pairs, pair.IsWritten)
    (h' : ∀ pair ∈ pairs', pair.IsWritten) (hfields : pairs.map Pair.field = pairs'.map Pair.field) :
    pairs = pairs' := by
  have back : ∀ {pairs : List Pair}, (∀ pair ∈ pairs, pair.IsWritten) →
      (pairs.map Pair.field).map (fun field => field.pair.encode) = pairs := by
    intro pairs hwritten
    rw [List.map_map]
    exact (List.map_congr_left fun pair hpair => Pair.encode_field (hwritten pair hpair)).trans
      (List.map_id _)
  rw [← back h, hfields, back h']

/-- **Pairs in written form are known from the form that they make.** -/
theorem join_queryText_injective {pairs pairs' : List Pair} (h : ∀ pair ∈ pairs, pair.IsWritten)
    (h' : ∀ pair ∈ pairs', pair.IsWritten)
    (htext : Text.join ['&'] (pairs.map Pair.queryText) =
      Text.join ['&'] (pairs'.map Pair.queryText)) : pairs = pairs' := by
  refine map_field_injective h h' ?_
  rw [← decode_join_queryText h, htext, decode_join_queryText h']

end Form

namespace BaseString

variable {method method' url url' base : Text} {params params' : Params}

/-! ## The parts of a base string -/

theorem isSigned_iff {key : Text} :
    isSigned key = true ↔ key ≠ Key.signature ∧ key ≠ Key.realm := by
  simp [isSigned]

theorem make_eq_ok : make method url params = .ok base ↔
    ∃ normal, normalizeUrl url = .ok normal ∧ join method normal (paramsText params) = base := by
  unfold make
  cases normalizeUrl url <;> simp [Except.map]

/-- What is made of a base string is made of the normal form of the URL. -/
theorem make_bind {α : Type} (f : Text → Except SigningFault α) :
    (make method url params).bind f =
      (normalizeUrl url).bind fun normal => f (join method normal (paramsText params)) := by
  unfold make
  cases normalizeUrl url <;> rfl

/-- The text of the parameters is known from those that count. -/
theorem paramsText_congr (h : params.filter isSigned = params'.filter isSigned) :
    paramsText params = paramsText params' := by
  change Text.join ['&'] ((params.filter isSigned).pairs.map Pair.queryText) = _
  rw [h]
  rfl

/-- **A base string is known from the normal form of the URL and the parameters that count.** -/
theorem make_of_filter
    (hurl : ∀ normal, normalizeUrl url = .ok normal → normalizeUrl url' = .ok normal)
    (hparams : params.filter isSigned = params'.filter isSigned)
    (h : make method url params = .ok base) : make method url' params' = .ok base := by
  obtain ⟨normal, hnormal, rfl⟩ := make_eq_ok.1 h
  exact make_eq_ok.2 ⟨normal, hurl normal hnormal, by rw [paramsText_congr hparams]⟩

/-- There is no base string for what has no normal form. -/
theorem make_sameResult {R : SigningFault → SigningFault → Prop}
    (hurl : SameResult R (normalizeUrl url) (normalizeUrl url'))
    (hparams : params.filter isSigned = params'.filter isSigned) :
    SameResult R (make method url params) (make method url' params') := by
  unfold make
  rw [paramsText_congr hparams]
  exact hurl.map _

/-- Two encoded texts with a `&` between them are known from the whole. -/
theorem encode_append_injective {s s' t t' : Text}
    (h : Percent.encode s ++ '&' :: t = Percent.encode s' ++ '&' :: t') : s = s' ∧ t = t' := by
  have hcut : ∀ s t : Text, Text.cut? '&' (Percent.encode s ++ '&' :: t) =
      some (Percent.encode s, t) := fun s t =>
    Text.cut?_append_cons (Percent.not_mem_encode (by decide) s) t
  have hsame := hcut s t
  rw [h, hcut s' t'] at hsame
  obtain ⟨hfront, hback⟩ := Prod.mk.inj (Option.some.inj hsame)
  exact ⟨(Percent.encode_injective hfront).symm, hback.symm⟩

/-- **The three parts are known from the base string.** -/
theorem join_injective {text text' : Text} (h : join method url text = join method' url' text') :
    method = method' ∧ url = url' ∧ text = text' := by
  simp only [join, List.append_assoc, List.cons_append] at h
  obtain ⟨hmethod, hrest⟩ := encode_append_injective h
  obtain ⟨hurl, htext⟩ := encode_append_injective hrest
  exact ⟨hmethod, hurl, Percent.encode_injective htext⟩

/-- The pairs that count are known from their text. -/
theorem paramsText_injective (h : params.IsWritten) (h' : params'.IsWritten)
    (htext : paramsText params = paramsText params') :
    params.filter isSigned = params'.filter isSigned := by
  have hwritten : ∀ {params : Params}, params.IsWritten →
      ∀ pair ∈ (params.filter isSigned).pairs, pair.IsWritten := fun hparams pair hpair =>
    hparams pair (Params.mem_filter.1 hpair).1
  have hpairs : (params.filter isSigned).pairs = (params'.filter isSigned).pairs :=
    Form.join_queryText_injective (hwritten h) (hwritten h') htext
  refine Params.ext fun pair => ?_
  rw [Params.mem_def, hpairs, Params.mem_def]

/-! ## Unambiguity -/

/-- The pairs of two sets that count are the same if the sets agree on all keys but two. -/
theorem filter_isSigned_eq_iff : params.filter isSigned = params'.filter isSigned ↔
    ∀ pair : Pair, pair.1 ≠ Key.signature → pair.1 ≠ Key.realm →
      (pair ∈ params ↔ pair ∈ params') := by
  constructor
  · intro h pair hsignature hrealm
    have hsigned : isSigned pair.1 = true := isSigned_iff.2 ⟨hsignature, hrealm⟩
    have hmem : pair ∈ params.filter isSigned ↔ pair ∈ params'.filter isSigned := by rw [h]
    rwa [Params.mem_filter, Params.mem_filter, and_iff_left hsigned, and_iff_left hsigned] at hmem
  · intro h
    refine Params.ext fun pair => ?_
    rw [Params.mem_filter, Params.mem_filter]
    refine and_congr_left fun hsigned => ?_
    obtain ⟨hsignature, hrealm⟩ := isSigned_iff.1 hsigned
    exact h pair hsignature hrealm

/-- **Base strings are unambiguous**: two requests have the same one exactly if they have the same
method, the same normal form of their URLs, and the same pairs but for signatures and realms. -/
theorem make_eq_ok_iff (h : params.IsWritten) (h' : params'.IsWritten)
    (hbase : make method url params = .ok base) :
    make method' url' params' = .ok base ↔ method = method' ∧
      normalizeUrl url = normalizeUrl url' ∧
      ∀ pair : Pair, pair.1 ≠ Key.signature → pair.1 ≠ Key.realm →
        (pair ∈ params ↔ pair ∈ params') := by
  constructor
  · intro hbase'
    obtain ⟨normal, hnormal, rfl⟩ := make_eq_ok.1 hbase
    obtain ⟨normal', hnormal', hjoin⟩ := make_eq_ok.1 hbase'
    obtain ⟨rfl, rfl, htext⟩ := join_injective hjoin
    refine ⟨rfl, hnormal.trans hnormal'.symm, ?_⟩
    exact filter_isSigned_eq_iff.1 (paramsText_injective h h' htext.symm)
  · rintro ⟨rfl, hurl, hpairs⟩
    refine make_of_filter (fun normal hnormal => ?_) (filter_isSigned_eq_iff.2 hpairs) hbase
    rw [← hurl, hnormal]

/-- Parameters with one that counts. -/
def oneParam (value : Text) : Params := .ofList [("a".toList, value)]

/-- The parameters and a realm. -/
def realmParam (value : Text) : Params := (oneParam value).insert (Key.realm, "r".toList)

theorem make_eq_ok_iff_spellings :
    let base := "GET&x%3A%2F%2Fh%2Fp&a%3D1".toList
    make "GET".toList "x://h/p?q".toList (oneParam "1".toList) = .ok base ∧
      make "GET".toList "X://H/p#f".toList (realmParam "1".toList) = .ok base ∧
      make "GET".toList "X://H/p#f".toList (realmParam "2".toList) ≠ .ok base := by
  intro base
  have hone : (oneParam "1".toList).IsWritten := by decide +kernel
  have hrealm : ∀ value ∈ ["1".toList, "2".toList], (realmParam value).IsWritten := by
    decide +kernel
  have hurl : normalizeUrl "x://h/p?q".toList = normalizeUrl "X://H/p#f".toList := by
    decide +kernel
  have hbase : make "GET".toList "x://h/p?q".toList (oneParam "1".toList) = .ok base := by
    decide +kernel
  refine ⟨hbase, ?_, fun hother => ?_⟩
  · refine (make_eq_ok_iff hone (hrealm _ (by simp)) hbase).2 ⟨rfl, hurl, fun pair _ hne => ?_⟩
    rw [realmParam, Params.mem_insert]
    refine (or_iff_right ?_).symm
    rintro rfl
    exact hne rfl
  · obtain ⟨-, -, hpairs⟩ := (make_eq_ok_iff hone (hrealm _ (by simp)) hbase).1 hother
    have hmem : ("a".toList, "1".toList) ∈ (realmParam "2".toList).pairs :=
      (hpairs _ (by decide) (by decide)).1 (Params.mem_insert.2 (.inl rfl))
    revert hmem
    decide

end BaseString

end OAuth
