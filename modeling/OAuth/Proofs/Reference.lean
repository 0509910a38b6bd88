import OAuth.Proofs.Written
import OAuth.Reference

/-!
# Changing the query of a URL

A URL's text and its parts determine each other (`Reference.ofText_toText`), so what
`Reference.removeKeys` and `Reference.append` do to a text can be said of its parts. Main
statements: `Reference.fields_withoutKeys`, only the fields of the given keys are taken out, and
`Reference.fields_extend`, the new fields stand behind the old ones. Where they stand in the text
is told by `Reference.isAppended_append`.
-/

namespace OAuth.Reference

/-! ## Parts of a text -/

/-- Parts that a text can be taken apart into: no sign of a later part is in an earlier one. -/
structure IsParted (r : Reference) : Prop where
  /-- the query begins at the first `?` -/
  query_base : '?' ∉ r.base
  /-- the fragment begins at the first `#` -/
  fragment_base : '#' ∉ r.base
  /-- the fragment begins at the first `#` -/
  fragment_query : ∀ query, r.query = some query → '#' ∉ query

theorem isParted_ofBase {s : Text} (h : '#' ∉ s) (fragment : Option Text) :
    (ofBase s fragment).IsParted := by
  simp only [ofBase]
  split
  · next base query hcut =>
    obtain ⟨rfl, hbase⟩ := Text.cut?_eq_some.1 hcut
    simp only [List.mem_append, List.mem_cons, not_or] at h
    refine ⟨hbase, h.1, ?_⟩
    intro other hother
    obtain rfl := Option.some.inj hother
    exact h.2.2
  · next hcut =>
    refine ⟨Text.cut?_eq_none.1 hcut, h, ?_⟩
    intro query hquery
    cases hquery

theorem isParted_ofText (s : Text) : (ofText s).IsParted := by
  simp only [ofText]
  split
  · next before fragment hcut =>
    exact isParted_ofBase (Text.cut?_eq_some.1 hcut).2 _
  · next hcut => exact isParted_ofBase (Text.cut?_eq_none.1 hcut) _

theorem ofBase_append {base : Text} {query : Option Text} (h : '?' ∉ base)
    (fragment : Option Text) :
    ofBase (base ++ introduced '?' query) fragment = ⟨base, query, fragment⟩ := by
  cases query with
  | none =>
    rw [introduced, List.append_nil, ofBase, Text.cut?_eq_none.2 h]
  | some query => rw [introduced, ofBase, Text.cut?_append_cons h]

/-- **Putting the parts together loses nothing.** -/
theorem ofText_toText {r : Reference} (h : r.IsParted) : ofText r.toText = r := by
  obtain ⟨base, query, fragment⟩ := r
  have hmark : '#' ∉ base ++ introduced '?' query := by
    rw [List.mem_append, not_or]
    refine ⟨h.fragment_base, ?_⟩
    cases query with
    | none => simp [introduced]
    | some query => simp [introduced, h.fragment_query query rfl]
  cases fragment with
  | none =>
    have htext : toText ⟨base, query, none⟩ = base ++ introduced '?' query := by
      simp [toText, introduced]
    rw [htext, ofText, Text.cut?_eq_none.2 hmark]
    exact ofBase_append h.query_base none
  | some fragment =>
    have hcut : Text.cut? '#' (toText ⟨base, query, some fragment⟩) =
        some (base ++ introduced '?' query, fragment) := Text.cut?_append_cons hmark fragment
    rw [ofText, hcut]
    exact ofBase_append h.query_base (some fragment)

/-- A text is known from its parts. -/
theorem ofText_injective {s t : Text} (h : ofText s = ofText t) : s = t := by
  rw [← toText_ofText s, h, toText_ofText]

/-- The characters of a text are those of its parts, and the signs that introduce them. -/
theorem mem_toText {r : Reference} {c : Char} : c ∈ r.toText ↔
    c ∈ r.base ∨ (∃ query, r.query = some query ∧ (c = '?' ∨ c ∈ query)) ∨
      ∃ fragment, r.fragment = some fragment ∧ (c = '#' ∨ c ∈ fragment) := by
  obtain ⟨base, query, fragment⟩ := r
  have hpart : ∀ (sign : Char) (part : Option Text),
      c ∈ introduced sign part ↔ ∃ s, part = some s ∧ (c = sign ∨ c ∈ s) := by
    intro sign part
    cases part <;> simp [introduced]
  rw [toText, List.mem_append, List.mem_append, hpart, hpart, or_assoc]

/-! ## Fields taken out -/

/-- Whether the field of a segment stays when those of some keys are taken out. -/
def isKept (keys : List Text) (segment : Text) : Bool :=
  !keys.contains (Percent.decode (Form.segmentKey segment))

/-- A query of some segments; without segments there is none. -/
def ofSegments : List Text → Option Text
  | [] => none
  | segments => some (Text.join ['&'] segments)

theorem withoutKeys_of_query {r : Reference} {query : Text} (h : r.query = some query)
    (keys : List Text) :
    r.withoutKeys keys =
      { r with query := ofSegments ((Form.segments query).filter (isKept keys)) } := by
  simp only [withoutKeys, h]
  change (match (Form.segments query).filter (isKept keys) with
    | [] => _
    | kept => _) = _
  cases (Form.segments query).filter (isKept keys) <;> rfl

theorem base_withoutKeys (r : Reference) (keys : List Text) :
    (r.withoutKeys keys).base = r.base := by
  cases h : r.query with
  | none => simp [withoutKeys, h]
  | some query => rw [withoutKeys_of_query h]

theorem fragment_withoutKeys (r : Reference) (keys : List Text) :
    (r.withoutKeys keys).fragment = r.fragment := by
  cases h : r.query with
  | none => simp [withoutKeys, h]
  | some query => rw [withoutKeys_of_query h]

/-- A character of a query made of segments is a character of a segment, or joins them. -/
theorem mem_ofSegments {segments : List Text} {query : Text} (h : ofSegments segments = some query)
    {c : Char} (hc : c ∈ query) : c = '&' ∨ ∃ segment ∈ segments, c ∈ segment := by
  cases segments with
  | nil => cases h
  | cons first rest =>
    obtain rfl := Option.some.inj h
    rcases Text.mem_join hc with hsep | hpart
    · exact .inl (List.mem_singleton.1 hsep)
    · exact .inr hpart

/-- A character of a query from which fields are taken out was there before, or joins them. -/
theorem mem_query_withoutKeys {r : Reference} {keys : List Text} {query : Text}
    (h : (r.withoutKeys keys).query = some query) {c : Char} (hc : c ∈ query) :
    c = '&' ∨ ∃ old, r.query = some old ∧ c ∈ old := by
  cases hq : r.query with
  | none => simp [withoutKeys, hq] at h
  | some old =>
    rw [withoutKeys_of_query hq] at h
    rcases mem_ofSegments h hc with hsep | ⟨segment, hsegment, hc⟩
    · exact .inl hsep
    · exact .inr ⟨old, rfl, Form.mem_of_mem_segments (List.mem_filter.1 hsegment).1 hc⟩

theorem IsParted.withoutKeys {r : Reference} (h : r.IsParted) (keys : List Text) :
    (r.withoutKeys keys).IsParted := by
  refine ⟨?_, ?_, ?_⟩
  · rw [base_withoutKeys]
    exact h.query_base
  · rw [base_withoutKeys]
    exact h.fragment_base
  · intro query hquery hmem
    rcases mem_query_withoutKeys hquery hmem with hc | ⟨old, hold, hmem⟩
    · cases hc
    · exact h.fragment_query old hold hmem

theorem ofText_removeKeys (url : Text) (keys : List Text) :
    ofText (removeKeys url keys) = (ofText url).withoutKeys keys :=
  ofText_toText ((isParted_ofText url).withoutKeys keys)

theorem fields_ofSegments (base : Text) {segments : List Text} (fragment : Option Text)
    (h : ∀ segment ∈ segments, '&' ∉ segment ∧ segment ≠ []) :
    fields ⟨base, ofSegments segments, fragment⟩ = segments.map Form.readSegment := by
  cases segments with
  | nil => rfl
  | cons first rest => simp only [fields, ofSegments, Form.decode, Form.segments_join h]

/-- **Exactly the fields of the given keys are taken out.** -/
theorem fields_withoutKeys (r : Reference) (keys : List Text) :
    (r.withoutKeys keys).fields = r.fields.filter fun field => !keys.contains field.1 := by
  cases h : r.query with
  | none => simp [withoutKeys, fields, h]
  | some query =>
    have hkept : ∀ segment ∈ (Form.segments query).filter (isKept keys),
        '&' ∉ segment ∧ segment ≠ [] := fun segment hsegment =>
      Form.not_mem_of_mem_segments (List.mem_filter.1 hsegment).1
    have hkeep : isKept keys = (fun field => !keys.contains field.1) ∘ Form.readSegment := by
      funext segment
      rw [Function.comp_apply, Form.readSegment_fst, isKept]
    rw [withoutKeys_of_query h, fields_ofSegments r.base r.fragment hkept]
    simp only [fields, h, Form.decode]
    rw [List.filter_map, hkeep]

/-! ## Fields put behind the query -/

theorem base_extend (r : Reference) (form : Text) : (r.extend form).base = r.base := by
  cases h : r.query <;> simp [extend, h]

theorem fragment_extend (r : Reference) (form : Text) : (r.extend form).fragment = r.fragment := by
  cases h : r.query <;> simp [extend, h]

/-- A character of a query to which a form is put was there before, or in the form, or joins
them. -/
theorem mem_query_extend {r : Reference} {form query : Text}
    (h : (r.extend form).query = some query) {c : Char} (hc : c ∈ query) :
    c = '&' ∨ c ∈ form ∨ ∃ old, r.query = some old ∧ c ∈ old := by
  cases hq : r.query with
  | none =>
    simp only [extend, hq, Option.some.injEq] at h
    subst h
    exact .inr (.inl hc)
  | some old =>
    simp only [extend, hq, Option.some.injEq] at h
    subst h
    rcases List.mem_append.1 hc with hc | hc
    · exact .inr (.inr ⟨old, rfl, hc⟩)
    · rcases List.mem_cons.1 hc with hc | hc
      · exact .inl hc
      · exact .inr (.inl hc)

theorem IsParted.extend {r : Reference} (h : r.IsParted) {form : Text} (hform : '#' ∉ form) :
    (r.extend form).IsParted := by
  refine ⟨?_, ?_, ?_⟩
  · rw [base_extend]
    exact h.query_base
  · rw [base_extend]
    exact h.fragment_base
  · intro query hquery hmem
    rcases mem_query_extend hquery hmem with hc | hmem | ⟨old, hold, hmem⟩
    · cases hc
    · exact hform hmem
    · exact h.fragment_query old hold hmem

theorem ofText_append (url : Text) {form : Text} (h : '#' ∉ form) :
    ofText (append url form) = (ofText url).extend form :=
  ofText_toText ((isParted_ofText url).extend h)

/-- **The new fields stand behind the old ones.** -/
theorem fields_extend (r : Reference) (form : Text) :
    (r.extend form).fields = r.fields ++ Form.decode form := by
  cases h : r.query with
  | none => simp [extend, fields, h]
  | some query => simp [extend, fields, h, Form.decode_append_cons]

/-- **What is put behind a query and has only keys to take out is taken out again**, and leaves
the text as it was. -/
theorem withoutKeys_extend {keys : List Text} {form : Text}
    (h : ∀ segment ∈ Form.segments form, isKept keys segment = false) (r : Reference) :
    ((r.withoutKeys keys).extend form).withoutKeys keys = r.withoutKeys keys := by
  have hform : (Form.segments form).filter (isKept keys) = [] := by
    rw [List.filter_eq_nil_iff]
    intro segment hsegment
    simp [h segment hsegment]
  have hnone : ∀ bare : Reference, bare.query = none →
      (bare.extend form).withoutKeys keys = bare := by
    rintro ⟨base, query, fragment⟩ rfl
    have hextended : (extend ⟨base, none, fragment⟩ form).query = some form := rfl
    rw [withoutKeys_of_query hextended, hform]
    rfl
  cases hquery : r.query with
  | none =>
    have hself : r.withoutKeys keys = r := by simp [withoutKeys, hquery]
    rw [hself, hnone r hquery]
  | some query =>
    rw [withoutKeys_of_query hquery]
    cases hkept : (Form.segments query).filter (isKept keys) with
    | nil => exact hnone _ rfl
    | cons first rest =>
      -- the segments that are kept are found again, and they are kept again
      have hsegments : ∀ segment ∈ first :: rest, '&' ∉ segment ∧ segment ≠ [] := by
        intro segment hsegment
        rw [← hkept] at hsegment
        exact Form.not_mem_of_mem_segments (List.mem_filter.1 hsegment).1
      have hagain : (first :: rest).filter (isKept keys) = first :: rest := by
        rw [← hkept, List.filter_filter]
        simp only [Bool.and_self]
      have hextended : ({ r with query := ofSegments (first :: rest) } : Reference).extend form =
          { r with query := some (Text.join ['&'] (first :: rest) ++ '&' :: form) } := rfl
      rw [hextended, withoutKeys_of_query rfl, Form.segments_append_cons,
        Form.segments_join hsegments, List.filter_append, hagain, hform, List.append_nil]

/-! ## Where a form is put -/

/-- Whether a text is another one with a form behind its query: before the fragment, if there is
one, and at the end otherwise. -/
def IsAppended (url form written : Text) : Prop :=
  ∃ front fragment, '#' ∉ front ∧ url = front ++ introduced '#' fragment ∧
    written = front ++ (if '?' ∈ front then '&' else '?') :: form ++ introduced '#' fragment

/-- The text before a fragment has a `?` if it has a query. -/
theorem mem_append_introduced {base : Text} (h : '?' ∉ base) (query : Option Text) :
    '?' ∈ base ++ introduced '?' query ↔ query.isSome = true := by
  rw [List.mem_append, or_iff_right h]
  cases query <;> simp [introduced]

/-- **A form is put before the fragment**, and nothing else changes. -/
theorem isAppended_append (url form : Text) : IsAppended url form (append url form) := by
  have htext := toText_ofText url
  have hparted := isParted_ofText url
  rw [append]
  generalize ofText url = r at htext hparted
  obtain ⟨base, query, fragment⟩ := r
  have hmark := mem_append_introduced hparted.query_base query
  refine ⟨base ++ introduced '?' query, fragment, ?_, htext.symm, ?_⟩
  · rw [List.mem_append, not_or]
    refine ⟨hparted.fragment_base, ?_⟩
    cases query with
    | none => exact List.not_mem_nil
    | some query => simp [introduced, hparted.fragment_query query rfl]
  · cases query with
    | none =>
      rw [if_neg (by rw [hmark]; decide)]
      simp [extend, toText, introduced]
    | some query =>
      rw [if_pos (hmark.2 rfl)]
      simp [extend, toText, introduced]

/-- Without a fragment a form is put at the end. -/
theorem append_of_not_mem {url : Text} (h : '#' ∉ url) (form : Text) :
    append url form = url ++ (if '?' ∈ url then '&' else '?') :: form := by
  obtain ⟨front, fragment, -, hurl, hwritten⟩ := isAppended_append url form
  obtain rfl : fragment = none := by
    cases fragment with
    | none => rfl
    | some fragment => simp [hurl, introduced] at h
  obtain rfl : url = front := by simpa [introduced] using hurl
  simpa [introduced] using hwritten

/-- **Fields put at the end of a URL without a fragment are read behind those of its query.** -/
theorem fields_addFields {url : Text} (h : '#' ∉ url) (fields : List (Text × Text)) :
    (ofText (addFields url fields)).fields =
      (ofText url).fields ++ fields.map fun field => (field.1, some field.2) := by
  cases fields with
  | nil => simp [addFields]
  | cons field fields =>
    have hadd : addFields url (field :: fields) = append url (Form.encode (field :: fields)) := by
      rw [append_of_not_mem h]
      simp [addFields]
    have hform : '#' ∉ Form.encode (field :: fields) := by
      intro hmem
      have hchar := Form.isFormChar_of_mem_encode hmem
      revert hchar
      decide
    rw [hadd, ofText_append url hform, fields_extend, Form.decode_encode]

end OAuth.Reference
