import OAuth.Params
import OAuth.Proofs.Text

/-!
# Written form

A text is in written form if it is the percent encoding of some text. Such a text holds no
separator, and reading it and writing it again changes nothing (`Percent.encode_decode`).
Main statement: `Form.decode_join_queryText`, a form made of pairs in written form is read as
these pairs.
-/

namespace OAuth

namespace Percent

/-- What is the percent encoding of some text. -/
def IsWritten (s : Text) : Prop := ∃ t, encode t = s

theorem isWritten_encode (s : Text) : IsWritten (encode s) := ⟨s, rfl⟩

theorem isWritten_nil : IsWritten [] := ⟨[], rfl⟩

/-- Unreserved text is in written form. -/
theorem isWritten_of_isUnreserved {s : Text} (h : ∀ c ∈ s, isUnreserved c = true) : IsWritten s :=
  ⟨s, encode_eq_self h⟩

/-- **Writing undoes reading** on texts in written form. -/
theorem encode_decode {s : Text} (h : IsWritten s) : encode (decode s) = s := by
  obtain ⟨t, rfl⟩ := h
  rw [decode_encode]

instance (s : Text) : Decidable (IsWritten s) :=
  decidable_of_iff (encode (decode s) = s) ⟨fun h => ⟨decode s, h⟩, encode_decode⟩

/-- A character that is neither unreserved nor `%` is in no text in written form. -/
theorem IsWritten.not_mem {s : Text} (h : IsWritten s) {c : Char} (hc : isEncoded c = false) :
    c ∉ s := by
  obtain ⟨t, rfl⟩ := h
  exact not_mem_encode hc t

/-- The characters of written texts are ASCII, and beyond its blanks and controls. -/
theorem toNat_of_isEncoded {c : Char} (h : isEncoded c = true) :
    0x20 < c.toNat ∧ c.toNat < 0x7F := by
  rw [← Text.isVisible_iff]
  simp only [isEncoded, isUnreserved, Bool.or_eq_true, Bool.and_eq_true, decide_eq_true_eq,
    beq_iff_eq] at h
  rcases h with ((((((h | h) | h) | rfl) | rfl) | rfl) | rfl) | rfl
  · exact Text.isVisible_of_between (d := 'A') (e := 'Z') (by decide) (by decide) h.1 h.2
  · exact Text.isVisible_of_between (d := 'a') (e := 'z') (by decide) (by decide) h.1 h.2
  · exact Text.isVisible_of_between (d := '0') (e := '9') (by decide) (by decide) h.1 h.2
  all_goals decide

/-- No character of a written text is a blank. -/
theorem isBlank_of_isEncoded {c : Char} (h : isEncoded c = true) : Text.isBlank c = false := by
  obtain ⟨hlow, hhigh⟩ := toNat_of_isEncoded h
  simp only [Text.isBlank, Bool.or_eq_false_iff, Bool.and_eq_false_iff, decide_eq_false_iff_not,
    beq_eq_false_iff_ne]
  omega

end Percent

namespace Pair

/-- Pairs whose key and value are in written form. -/
def IsWritten (pair : Pair) : Prop := Percent.IsWritten pair.1 ∧ Percent.IsWritten pair.2

instance (pair : Pair) : Decidable pair.IsWritten := instDecidableAnd

theorem isWritten_encode (pair : Pair) : pair.encode.IsWritten :=
  ⟨Percent.isWritten_encode _, Percent.isWritten_encode _⟩

/-- The field that a pair in written form is read as. -/
def field (pair : Pair) : Form.Field := (Percent.decode pair.1, some (Percent.decode pair.2))

/-- A pair in written form is known from its field. -/
theorem encode_field {pair : Pair} (h : pair.IsWritten) : pair.field.pair.encode = pair := by
  obtain ⟨key, value⟩ := pair
  simp [field, Form.Field.pair, encode, Percent.encode_decode h.1, Percent.encode_decode h.2]

/-- In a query a pair in written form is an encoded field. -/
theorem queryText_eq {pair : Pair} (h : pair.IsWritten) :
    pair.queryText = Form.encodeField (Percent.decode pair.1, Percent.decode pair.2) := by
  simp [queryText, Form.encodeField, Percent.encode_decode h.1, Percent.encode_decode h.2]

end Pair

/-- Pairs that are all in written form. -/
def Params.IsWritten (params : Params) : Prop := ∀ pair ∈ params, Pair.IsWritten pair

instance (params : Params) : Decidable params.IsWritten :=
  inferInstanceAs (Decidable (∀ pair ∈ params.pairs, Pair.IsWritten pair))

namespace Form

/-- **A form of pairs in written form is read as these pairs.** -/
theorem decode_join_queryText {pairs : List Pair} (h : ∀ pair ∈ pairs, pair.IsWritten) :
    decode (Text.join ['&'] (pairs.map Pair.queryText)) = pairs.map Pair.field := by
  have htext : pairs.map Pair.queryText =
      (pairs.map fun pair => (Percent.decode pair.1, Percent.decode pair.2)).map encodeField := by
    rw [List.map_map]
    exact List.map_congr_left fun pair hpair => Pair.queryText_eq (h pair hpair)
  rw [htext, ← encode, decode_encode, List.map_map]
  rfl

/-- The characters of a form of pairs in written form. -/
def isFormChar (c : Char) : Bool := Percent.isEncoded c || c == '=' || c == '&'

theorem isFormChar_of_mem {pairs : List Pair} (h : ∀ pair ∈ pairs, pair.IsWritten) {c : Char}
    (hc : c ∈ Text.join ['&'] (pairs.map Pair.queryText)) : isFormChar c = true := by
  rcases Text.mem_join hc with hsep | ⟨part, hpart, hc⟩
  · rw [List.mem_singleton] at hsep
    subst hsep
    decide
  · obtain ⟨pair, hpair, rfl⟩ := List.mem_map.1 hpart
    rw [Pair.queryText_eq (h pair hpair), encodeField, List.mem_append, List.mem_cons] at hc
    rcases hc with hc | rfl | hc
    · simp [isFormChar, Percent.isEncoded_of_mem_encode hc]
    · decide
    · simp [isFormChar, Percent.isEncoded_of_mem_encode hc]

/-- The characters of a form that is written. -/
theorem isFormChar_of_mem_encode {fields : List (Text × Text)} {c : Char} (hc : c ∈ encode fields) :
    isFormChar c = true := by
  have hencode : encode fields = Text.join ['&'] ((fields.map Pair.encode).map Pair.queryText) := by
    rw [encode, List.map_map]
    rfl
  rw [hencode] at hc
  refine isFormChar_of_mem (fun pair hpair => ?_) hc
  obtain ⟨field, -, rfl⟩ := List.mem_map.1 hpair
  exact Pair.isWritten_encode field

theorem lt_toNat_of_isFormChar {c : Char} (h : isFormChar c = true) : 0x20 < c.toNat := by
  simp only [isFormChar, Bool.or_eq_true, beq_iff_eq] at h
  rcases h with (h | rfl) | rfl
  · exact (Percent.toNat_of_isEncoded h).1
  · decide
  · decide

/-! ## Segments of texts that are put together -/

theorem segments_append_cons (s t : Text) :
    segments (s ++ '&' :: t) = segments s ++ segments t := by
  rw [segments, Text.pieces_append_cons, List.filter_append, segments, segments]

theorem decode_append_cons (s t : Text) : decode (s ++ '&' :: t) = decode s ++ decode t := by
  rw [decode, segments_append_cons, List.map_append, decode, decode]

/-- A segment has no separator and is not empty. -/
theorem not_mem_of_mem_segments {s segment : Text} (h : segment ∈ segments s) :
    '&' ∉ segment ∧ segment ≠ [] := by
  rw [segments, List.mem_filter] at h
  exact ⟨fun hmem => (Text.mem_of_mem_pieces h.1 hmem).2 rfl, by simpa using h.2⟩

theorem mem_of_mem_segments {s segment : Text} (h : segment ∈ segments s) {c : Char}
    (hc : c ∈ segment) : c ∈ s := by
  rw [segments, List.mem_filter] at h
  exact (Text.mem_of_mem_pieces h.1 hc).1

/-- Segments that are joined are found again. -/
theorem segments_join {parts : List Text} (h : ∀ part ∈ parts, '&' ∉ part ∧ part ≠ []) :
    segments (Text.join ['&'] parts) = parts := by
  cases parts with
  | nil => rfl
  | cons first rest =>
    rw [segments, Text.pieces_join (by simp) fun part hpart => (h part hpart).1,
      List.filter_eq_self]
    intro part hpart
    simp [(h part hpart).2]

end Form

end OAuth
