import OAuth.Text.Hex
import OAuth.Text.Utf8

/-!
# Percent encoding

A character that has to be escaped is written as its UTF-8 bytes, each as `%` and two upper-case
digits. Which characters stay is a parameter of `Percent.escape`; signatures keep the unreserved
ones only (`Percent.encode`).

Reading takes a `+` for a space and keeps an escape that is none. The main statements are
`Percent.decode_encode`, that reading undoes writing, and `Percent.encode_injective`.
-/

namespace OAuth.Percent

/-- Letters, digits and `-._~`. -/
def isUnreserved (c : Char) : Bool :=
  ('A' ≤ c && c ≤ 'Z') || ('a' ≤ c && c ≤ 'z') || ('0' ≤ c && c ≤ '9') ||
    c == '-' || c == '.' || c == '_' || c == '~'

/-- A byte as an escape. -/
def escapeByte (b : UInt8) : Text := ['%', Hex.digit (b.toNat / 16), Hex.digit (b.toNat % 16)]

/-- A character as it is, or as its escaped bytes. -/
def escapeChar (keep : Char → Bool) (c : Char) : Text :=
  if keep c then [c] else (String.utf8EncodeChar c).flatMap escapeByte

/-- A text with all but the kept characters escaped. -/
def escape (keep : Char → Bool) (s : Text) : Text := s.flatMap (escapeChar keep)

/-- A text with all but the unreserved characters escaped. -/
def encode (s : Text) : Text := escape isUnreserved s

/-- The bytes of a text with its escapes undone; what is no escape stands for itself. -/
def bytes : Text → List UInt8
  | [] => []
  | [a] => String.utf8EncodeChar a
  | [a, b] => String.utf8EncodeChar a ++ String.utf8EncodeChar b
  | a :: b :: c :: rest =>
    if a = '%' then
      match Hex.value? b, Hex.value? c with
      | some high, some low => UInt8.ofNat (high * 16 + low) :: bytes rest
      | _, _ => String.utf8EncodeChar a ++ bytes (b :: c :: rest)
    else String.utf8EncodeChar a ++ bytes (b :: c :: rest)

/-- A space for a `+`, as form bodies write it. -/
def plusToSpace (c : Char) : Char := if c = '+' then ' ' else c

/-- The text that was encoded; bytes that are not UTF-8 are replaced. -/
def decode (s : Text) : Text := Utf8.decode (bytes (s.map plusToSpace))

/-! ## Writing -/

@[simp] theorem encode_nil : encode [] = [] := rfl

theorem encode_cons (c : Char) (s : Text) :
    encode (c :: s) = escapeChar isUnreserved c ++ encode s := rfl

theorem encode_append (s t : Text) : encode (s ++ t) = encode s ++ encode t := by
  simp [encode, escape]

/-- Unreserved text is left alone. -/
theorem encode_eq_self {s : Text} (h : ∀ c ∈ s, isUnreserved c = true) : encode s = s := by
  induction s with
  | nil => rfl
  | cons c s ih =>
    rw [encode_cons, ih fun d hd => h d (List.mem_cons_of_mem _ hd), escapeChar,
      if_pos (h c List.mem_cons_self)]
    rfl

/-! ## Reading back -/

theorem bytes_of_ne {c : Char} (h : c ≠ '%') (s : Text) :
    bytes (c :: s) = String.utf8EncodeChar c ++ bytes s := by
  match s with
  | [] => simp [bytes]
  | [b] => simp [bytes]
  | b :: d :: rest => simp [bytes, h]

theorem bytes_escapeByte (b : UInt8) (s : Text) : bytes (escapeByte b ++ s) = b :: bytes s := by
  have hb : b.toNat < 256 := b.toNat_lt
  simp only [escapeByte, List.cons_append, List.nil_append, bytes, ↓reduceIte,
    Hex.value?_digit (show b.toNat / 16 < 16 by omega),
    Hex.value?_digit (show b.toNat % 16 < 16 by omega)]
  rw [Nat.div_add_mod' b.toNat 16, UInt8.ofNat_toNat]

theorem bytes_flatMap_escapeByte (bs : List UInt8) (s : Text) :
    bytes (bs.flatMap escapeByte ++ s) = bs ++ bytes s := by
  induction bs with
  | nil => rfl
  | cons b bs ih => rw [List.flatMap_cons, List.append_assoc, bytes_escapeByte, ih]; rfl

theorem isUnreserved_ne {c d : Char} (h : isUnreserved c = true) (hd : isUnreserved d = false) :
    c ≠ d := by
  rintro rfl
  simp [h] at hd

theorem bytes_encode (s : Text) : bytes (encode s) = Utf8.encode s := by
  induction s with
  | nil => rfl
  | cons c s ih =>
    rw [encode_cons, escapeChar, Utf8.encode_cons]
    split
    · next h =>
      rw [List.cons_append, List.nil_append, bytes_of_ne (isUnreserved_ne h (by decide)), ih]
    · rw [bytes_flatMap_escapeByte, ih]

/-- A character of an encoded text: unreserved, or a `%`. -/
def isEncoded (c : Char) : Bool := isUnreserved c || c == '%'

theorem isUnreserved_digit {n : Nat} (h : n < 16) : isUnreserved (Hex.digit n) = true := by
  have all : ∀ m ∈ List.range 16, isUnreserved (Hex.digit m) = true := by decide
  exact all n (List.mem_range.2 h)

theorem isEncoded_of_mem_escapeByte {b : UInt8} {c : Char} (h : c ∈ escapeByte b) :
    isEncoded c = true := by
  have hb : b.toNat < 256 := b.toNat_lt
  simp only [escapeByte, List.mem_cons, List.not_mem_nil, or_false] at h
  rcases h with rfl | rfl | rfl
  · decide
  · simp [isEncoded, isUnreserved_digit (show b.toNat / 16 < 16 by omega)]
  · simp [isEncoded, isUnreserved_digit (show b.toNat % 16 < 16 by omega)]

/-- **Encoded text is unreserved characters and `%`**, so it holds no separator. -/
theorem isEncoded_of_mem_encode {s : Text} {c : Char} (h : c ∈ encode s) : isEncoded c = true := by
  simp only [encode, escape, List.mem_flatMap, escapeChar] at h
  obtain ⟨d, _, hd⟩ := h
  split at hd
  · next hu => simp only [List.mem_singleton] at hd; subst hd; simp [isEncoded, hu]
  · obtain ⟨b, _, hb⟩ := List.mem_flatMap.1 hd
    exact isEncoded_of_mem_escapeByte hb

/-- A character that no encoded text has. -/
theorem not_mem_encode {c : Char} (h : isEncoded c = false) (s : Text) : c ∉ encode s := by
  intro hc
  simp [isEncoded_of_mem_encode hc] at h

theorem map_plusToSpace_encode (s : Text) : (encode s).map plusToSpace = encode s := by
  refine (List.map_congr_left fun c hc => ?_).trans (List.map_id _)
  have : c ≠ '+' := by rintro rfl; exact not_mem_encode (by decide) s hc
  simp [plusToSpace, this]

/-- **Reading undoes writing.** -/
theorem decode_encode (s : Text) : decode (encode s) = s := by
  rw [decode, map_plusToSpace_encode, bytes_encode, Utf8.decode_encode]

/-- A text is known from its encoding. -/
theorem encode_injective {s t : Text} (h : encode s = encode t) : s = t := by
  rw [← decode_encode s, h, decode_encode]

end OAuth.Percent
