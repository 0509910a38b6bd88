import OAuth.Percent
import OAuth.Text.Blank

/-!
# Forms

A form is written as fields joined by `&`, each a key and a value joined by `=`. A field that is
read may also be a bare key. Main statement: `Form.decode_encode`, reading undoes writing.
-/

namespace OAuth.Form

/-- A field as it is read: a key, and a value unless the key stands alone. -/
abbrev Field := Text × Option Text

/-- The media type of a form. -/
def mediaType : Text := "application/x-www-form-urlencoded".toList

/-- A field in its written form. -/
def encodeField (field : Text × Text) : Text :=
  Percent.encode field.1 ++ '=' :: Percent.encode field.2

/-- The written form of fields, in their order. -/
def encode (fields : List (Text × Text)) : Text := Text.join ['&'] (fields.map encodeField)

/-- The pieces of a form that hold a field; an empty piece holds none. -/
def segments (s : Text) : List Text := (Text.pieces '&' s).filter fun piece => !piece.isEmpty

/-- The key of a piece, still encoded. -/
def segmentKey (segment : Text) : Text := Text.upTo '=' segment

/-- The field of a piece. -/
def readSegment (segment : Text) : Field :=
  match Text.cut? '=' segment with
  | some (key, value) => (Percent.decode key, some (Percent.decode value))
  | none => (Percent.decode segment, none)

/-- The fields of a form, in their order. -/
def decode (s : Text) : List Field := (segments s).map readSegment

/-- Whether a content type is that of a form, whatever its parameters. -/
def isFormEncoded (contentType : Text) : Bool :=
  Text.sameLetters (Text.trim (Text.upTo ';' contentType)) mediaType

theorem readSegment_fst (segment : Text) :
    (readSegment segment).1 = Percent.decode (segmentKey segment) := by
  simp only [readSegment, segmentKey, Text.upTo]
  cases Text.cut? '=' segment <;> rfl

/-! ## Reading back -/

theorem readSegment_encodeField (field : Text × Text) :
    readSegment (encodeField field) = (field.1, some field.2) := by
  have hcut : Text.cut? '=' (encodeField field) =
      some (Percent.encode field.1, Percent.encode field.2) :=
    Text.cut?_eq_some.2 ⟨rfl, Percent.not_mem_encode (by decide) _⟩
  simp [readSegment, hcut, Percent.decode_encode]

theorem not_mem_encodeField (field : Text × Text) : '&' ∉ encodeField field := by
  simp [encodeField, Percent.not_mem_encode (show Percent.isEncoded '&' = false by decide)]

theorem encodeField_ne_nil (field : Text × Text) : encodeField field ≠ [] := by
  simp [encodeField]

theorem segments_encode (fields : List (Text × Text)) :
    segments (encode fields) = fields.map encodeField := by
  cases fields with
  | nil => rfl
  | cons field fields =>
    have hmem : ∀ part ∈ (field :: fields).map encodeField, '&' ∉ part ∧ part ≠ [] := by
      intro part hpart
      obtain ⟨f, _, rfl⟩ := List.mem_map.1 hpart
      exact ⟨not_mem_encodeField f, encodeField_ne_nil f⟩
    rw [segments, encode, Text.pieces_join (by simp) fun part h => (hmem part h).1,
      List.filter_eq_self]
    intro part hpart
    simp [(hmem part hpart).2]

/-- **Reading undoes writing.** -/
theorem decode_encode (fields : List (Text × Text)) :
    decode (encode fields) = fields.map fun field => (field.1, some field.2) := by
  simp [decode, segments_encode, readSegment_encodeField]

end OAuth.Form
