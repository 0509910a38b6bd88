import OAuth.Proofs.Signing

/-!
# Editing the query of a URL

What it is for a text to be another one with fields taken out of its query, or put behind it. Main
statements: `Reference.isWithout_removeKeys`, that `Reference.removeKeys` takes the fields of the
given keys out and nothing else, in any number of steps; and `Reference.isAdded_addFields_iff`,
that `Reference.addFields` puts fields behind the query of a text that has no fragment, and
otherwise into the fragment.
-/

namespace OAuth.Reference

/-- The pieces of the query that hold a field, as they stand in the text. -/
def segments (r : Reference) : List Text := r.query.elim [] Form.segments

theorem fields_eq (r : Reference) : r.fields = r.segments.map Form.readSegment := by
  cases hquery : r.query with
  | none => simp [fields, segments, hquery]
  | some query => simp [fields, segments, hquery, Form.decode]

/-! ## Fields taken out -/

/-- Whether a text is another one without the fields of some keys, all else being as it was. -/
structure IsWithout (url : Text) (keys : List Text) (written : Text) : Prop where
  /-- the text before the query is the same -/
  base : (ofText written).base = (ofText url).base
  /-- the fragment is the same -/
  fragment : (ofText written).fragment = (ofText url).fragment
  /-- the pieces whose key is none of those are left, as they stood, in their order -/
  segments : (ofText written).segments = (ofText url).segments.filter (isKept keys)
  /-- so are the fields -/
  fields : (ofText written).fields = (ofText url).fields.filter fun field => !keys.contains field.1

theorem segments_ofSegments (base : Text) {parts : List Text} (fragment : Option Text)
    (h : ∀ part ∈ parts, '&' ∉ part ∧ part ≠ []) :
    segments ⟨base, ofSegments parts, fragment⟩ = parts := by
  cases parts with
  | nil => rfl
  | cons first rest => exact Form.segments_join h

/-- **The pieces with the given keys are taken out**, and no others. -/
theorem segments_withoutKeys (r : Reference) (keys : List Text) :
    (r.withoutKeys keys).segments = r.segments.filter (isKept keys) := by
  cases hquery : r.query with
  | none => simp [withoutKeys, segments, hquery]
  | some query =>
    rw [withoutKeys_of_query hquery, segments_ofSegments r.base r.fragment]
    · simp [segments, hquery]
    · intro part hpart
      exact Form.not_mem_of_mem_segments (List.mem_filter.1 hpart).1

theorem isWithout_removeKeys_once (url : Text) (keys : List Text) :
    IsWithout url keys (removeKeys url keys) := by
  constructor
  · rw [ofText_removeKeys, base_withoutKeys]
  · rw [ofText_removeKeys, fragment_withoutKeys]
  · rw [ofText_removeKeys, segments_withoutKeys]
  · rw [ofText_removeKeys, fields_withoutKeys]

theorem isKept_append (a b : List Text) (segment : Text) :
    isKept (a ++ b) segment = (isKept b segment && isKept a segment) := by
  simp [isKept, Bool.and_comm]

/-- **Keys that are taken out in two steps can be taken out in one.** -/
theorem withoutKeys_withoutKeys (r : Reference) (a b : List Text) :
    (r.withoutKeys a).withoutKeys b = r.withoutKeys (a ++ b) := by
  cases hquery : r.query with
  | none => simp [withoutKeys, hquery]
  | some query =>
    have hfilter : (Form.segments query).filter (isKept (a ++ b)) =
        ((Form.segments query).filter (isKept a)).filter (isKept b) := by
      rw [List.filter_filter]
      exact List.filter_congr fun segment _ => isKept_append a b segment
    rw [withoutKeys_of_query hquery, withoutKeys_of_query hquery, hfilter]
    cases hkept : (Form.segments query).filter (isKept a) with
    | nil => rfl
    | cons first rest =>
      -- what is kept in the first step is a query again, of the same segments
      have hsegments : ∀ segment ∈ first :: rest, '&' ∉ segment ∧ segment ≠ [] := by
        intro segment hsegment
        rw [← hkept] at hsegment
        exact Form.not_mem_of_mem_segments (List.mem_filter.1 hsegment).1
      rw [withoutKeys_of_query (r := { r with query := ofSegments (first :: rest) }) rfl,
        Form.segments_join hsegments]

theorem withoutKeys_congr {a b : List Text} (h : ∀ key, key ∈ a ↔ key ∈ b) (r : Reference) :
    r.withoutKeys a = r.withoutKeys b := by
  have hkept : isKept a = isKept b := by
    funext segment
    rw [isKept, isKept, Bool.not_inj_iff, Bool.eq_iff_iff]
    simp only [List.contains_iff_mem, h]
  cases hquery : r.query with
  | none => simp [withoutKeys, hquery]
  | some query => rw [withoutKeys_of_query hquery, withoutKeys_of_query hquery, hkept]

theorem removeKeys_removeKeys (url : Text) (a b : List Text) :
    removeKeys (removeKeys url a) b = removeKeys url (a ++ b) := by
  rw [removeKeys, ofText_removeKeys, withoutKeys_withoutKeys, removeKeys]

theorem removeKeys_congr {a b : List Text} (h : ∀ key, key ∈ a ↔ key ∈ b) (url : Text) :
    removeKeys url a = removeKeys url b := by
  rw [removeKeys, removeKeys, withoutKeys_congr h]

/-- Nothing is taken out exactly where no field has one of the keys. -/
theorem segments_removeKeys_eq_iff (url : Text) (keys : List Text) :
    (ofText (removeKeys url keys)).segments = (ofText url).segments ↔
      ∀ key ∈ Reference.keys url, key ∉ keys := by
  rw [ofText_removeKeys, segments_withoutKeys, List.filter_eq_self, Reference.keys, fields_eq]
  simp only [isKept, List.forall_mem_map, Form.readSegment_fst, Bool.not_eq_true',
    ← Bool.not_eq_true, List.contains_iff_mem]

/-- **Exactly the fields of the given keys are taken out.** What stands before the query, the
fragment and the other fields stay as they are, and no key in any spelling is left; so what was
generated is found in a text if and only if something is taken out, and not found afterwards. To
take out keys again changes nothing, and keys may be taken out together or in any order. -/
theorem isWithout_removeKeys (url : Text) (keys more : List Text) :
    IsWithout url keys (removeKeys url keys) ∧
      (∀ key ∈ keys, key ∉ Reference.keys (removeKeys url keys)) ∧
      (Consumer.hasGenerated url = false ↔
        (ofText (removeKeys url Key.generated)).segments = (ofText url).segments) ∧
      Consumer.hasGenerated (removeKeys url Key.generated) = false ∧
      removeKeys (removeKeys url keys) keys = removeKeys url keys ∧
      removeKeys (removeKeys url keys) more = removeKeys url (keys ++ more) ∧
      removeKeys (removeKeys url keys) more = removeKeys url (more ++ keys) ∧
      removeKeys (removeKeys url keys) more = removeKeys (removeKeys url more) keys := by
  have hgone : ∀ keys : List Text, ∀ key ∈ keys, key ∉ Reference.keys (removeKeys url keys) := by
    intro keys key hkey hmem
    obtain ⟨field, hfield, rfl⟩ := List.mem_map.1 hmem
    rw [(isWithout_removeKeys_once url keys).fields, List.mem_filter] at hfield
    simp [hkey] at hfield
  have hswap : removeKeys url (keys ++ more) = removeKeys url (more ++ keys) :=
    removeKeys_congr (fun key => by rw [List.mem_append, List.mem_append, or_comm]) url
  refine ⟨isWithout_removeKeys_once url keys, hgone keys, ?_, ?_, ?_, ?_, ?_, ?_⟩
  · rw [Consumer.hasGenerated_eq_false, segments_removeKeys_eq_iff]
  · rw [Consumer.hasGenerated_eq_false]
    exact fun key hkey hgenerated => hgone Key.generated key hgenerated hkey
  · rw [removeKeys_removeKeys]
    exact removeKeys_congr (fun key => by rw [List.mem_append, or_self]) url
  · rw [removeKeys_removeKeys]
  · rw [removeKeys_removeKeys, hswap]
  · rw [removeKeys_removeKeys, removeKeys_removeKeys, hswap]

example : removeKeys "h?a%62=1&&x=1&ab&=&#f?ab".toList ["ab".toList] = "h?x=1&=#f?ab".toList := by
  decide +kernel

/-! ## Fields put behind -/

/-- Whether a text is another one with fields behind those of its query, all else being as it
was. -/
structure IsAdded (url : Text) (fields : List (Text × Text)) (written : Text) : Prop where
  /-- the text before the query is the same -/
  base : (ofText written).base = (ofText url).base
  /-- the fragment is the same -/
  fragment : (ofText written).fragment = (ofText url).fragment
  /-- the fields stand behind those that were there, with their values -/
  fields : (ofText written).fields =
    (ofText url).fields ++ fields.map fun field => (field.1, some field.2)

theorem not_mem_encode (fields : List (Text × Text)) : '#' ∉ Form.encode fields := by
  intro hmem
  have hchar := Form.isFormChar_of_mem_encode hmem
  revert hchar
  decide

/-- **Fields in a form that is put before the fragment are added**, whatever the text. -/
theorem isAdded_append (url : Text) (fields : List (Text × Text)) :
    IsAdded url fields (append url (Form.encode fields)) := by
  have hparts := ofText_append url (not_mem_encode fields)
  constructor
  · rw [hparts, base_extend]
  · rw [hparts, fragment_extend]
  · rw [hparts, fields_extend, Form.decode_encode]

/-- Without a fragment the end of a text is the end of its query. -/
theorem addFields_eq_append {url : Text} {fields : List (Text × Text)} (hne : fields ≠ [])
    (h : (ofText url).fragment = none) : addFields url fields = append url (Form.encode fields) := by
  have hmark : '#' ∉ url := by
    rw [← toText_ofText url, mem_toText]
    have hparted := isParted_ofText url
    rintro (hbase | ⟨query, hquery, hsign | hmem⟩ | ⟨fragment, hfragment, -⟩)
    · exact hparted.fragment_base hbase
    · cases hsign
    · exact hparted.fragment_query query hquery hmem
    · rw [h] at hfragment
      cases hfragment
  obtain ⟨field, more, rfl⟩ := List.exists_cons_of_ne_nil hne
  rw [append_of_not_mem hmark]
  simp [addFields]

/-- What is put at the end of a text with a fragment is put at the end of the fragment. -/
theorem toText_append {r : Reference} {fragment : Text} (h : r.fragment = some fragment)
    (more : Text) :
    toText { r with fragment := some (fragment ++ more) } = r.toText ++ more := by
  simp [toText, introduced, h]

/-- **Behind a fragment fields become part of it.** -/
theorem ofText_addFields_of_fragment {url fragment : Text} {fields : List (Text × Text)}
    (hne : fields ≠ []) (h : (ofText url).fragment = some fragment) :
    ofText (addFields url fields) = { ofText url with
      fragment := some (fragment ++ (if url.contains '?' then '&' else '?') :: Form.encode fields) } := by
  have hparted := isParted_ofText url
  have hadd : addFields url fields =
      url ++ (if url.contains '?' then '&' else '?') :: Form.encode fields := by
    obtain ⟨field, more, rfl⟩ := List.exists_cons_of_ne_nil hne
    rfl
  have hwritten := toText_append h ((if url.contains '?' then '&' else '?') :: Form.encode fields)
  rw [toText_ofText, ← hadd] at hwritten
  rw [← hwritten]
  exact ofText_toText ⟨hparted.query_base, hparted.fragment_base, hparted.fragment_query⟩

/-- **Fields put at the end of a text are added to its query unless it has a fragment.** Behind a
fragment they are part of it, and the query stays as it was, so that they are not sent; a form that
is put before the fragment is always added to the query, and where there is none the two are the
same. -/
theorem isAdded_addFields_iff (url : Text) (fields : List (Text × Text)) :
    (IsAdded url fields (addFields url fields) ↔ fields = [] ∨ (ofText url).fragment = none) ∧
      (IsAdded url fields (addFields url fields) →
        ∀ field ∈ fields, (field.1, some field.2) ∈ (ofText (addFields url fields)).fields) ∧
      (fields ≠ [] → ∀ fragment, (ofText url).fragment = some fragment →
        ofText (addFields url fields) = { ofText url with
          fragment := some
            (fragment ++ (if url.contains '?' then '&' else '?') :: Form.encode fields) }) ∧
      IsAdded url fields (append url (Form.encode fields)) ∧
      (fields ≠ [] → (ofText url).fragment = none →
        addFields url fields = append url (Form.encode fields)) := by
  refine ⟨⟨fun hadded => ?_, ?_⟩, fun hadded field hfield => ?_,
    fun hne fragment hfragment => ofText_addFields_of_fragment hne hfragment,
    isAdded_append url fields, addFields_eq_append⟩
  · -- with a fragment and something to add, the fragment would be longer
    by_contra hboth
    rw [not_or, ← ne_eq, ← ne_eq, Option.ne_none_iff_exists'] at hboth
    obtain ⟨hne, fragment, hfragment⟩ := hboth
    have hsame := hadded.fragment
    rw [ofText_addFields_of_fragment hne hfragment, hfragment] at hsame
    simp at hsame
  · rintro (rfl | hnone)
    · exact ⟨rfl, rfl, (List.append_nil _).symm⟩
    · by_cases hne : fields = []
      · subst hne
        exact ⟨rfl, rfl, (List.append_nil _).symm⟩
      · rw [addFields_eq_append hne hnone]
        exact isAdded_append url fields
  · rw [hadded.fields]
    exact List.mem_append_right _ (List.mem_map_of_mem hfield)

/-- Behind a query with a bare key, a key with a separator in it is added, and an empty one. -/
theorem isAdded_addFields_iff_bare :
    (Reference.ofText "http://h/?x=1&x".toList).fragment = none ∧
      IsAdded "http://h/?x=1&x".toList [("a&b".toList, "#".toList), ([], [])]
        (addFields "http://h/?x=1&x".toList [("a&b".toList, "#".toList), ([], [])]) ∧
      addFields "http://h/?x=1&x".toList [("a&b".toList, "#".toList), ([], [])] =
        "http://h/?x=1&x&a%26b=%23&=".toList := by
  have hnone : (Reference.ofText "http://h/?x=1&x".toList).fragment = none := by decide +kernel
  obtain ⟨hadded, -, -, -, -⟩ :=
    isAdded_addFields_iff "http://h/?x=1&x".toList [("a&b".toList, "#".toList), ([], [])]
  exact ⟨hnone, hadded.2 (.inr hnone), by decide +kernel⟩

/-- A callback that is put behind a fragment is not sent. -/
theorem fragment_takes_callback :
    ¬ IsAdded "http://h/r#f".toList [(Key.callback, "oob".toList)]
        (addFields "http://h/r#f".toList [(Key.callback, "oob".toList)]) ∧
      Reference.keys (addFields "http://h/r#f".toList [(Key.callback, "oob".toList)]) = [] := by
  refine ⟨fun hadded => ?_, by decide +kernel⟩
  have hsame := hadded.fragment
  revert hsame
  decide +kernel

end OAuth.Reference
