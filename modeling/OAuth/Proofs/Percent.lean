import OAuth.Proofs.Utf8
import OAuth.Proofs.Written

/-!
# Coded texts

A coded text is made of unreserved characters and of escapes with digits in upper case, none of
which stands for an unreserved character. Percent encoding writes no other texts, and of the coded
ones it writes those whose bytes are UTF-8 (`Percent.isWritten_iff`). Main statement:
`Percent.encode_canonical`, any text that is read and written again has got the one form that then
stays as it is.
-/

namespace OAuth

namespace Hex

/-- A digit, with a letter in upper case. -/
def IsUpperDigit (c : Char) : Prop := ('0' ≤ c ∧ c ≤ '9') ∨ ('A' ≤ c ∧ c ≤ 'F')

instance (c : Char) : Decidable (IsUpperDigit c) := instDecidableOr

theorem isUpperDigit_digit {n : Nat} (h : n < 16) : IsUpperDigit (digit n) := by
  have all : ∀ m < 16, IsUpperDigit (digit m) := by decide
  exact all n h

theorem IsUpperDigit.exists_digit {c : Char} (h : IsUpperDigit c) : ∃ n < 16, c = digit n := by
  simp only [IsUpperDigit, Char.le_def, UInt32.le_iff_toNat_le] at h
  rcases h with ⟨hlow, hhigh⟩ | ⟨hlow, hhigh⟩
  · have hlow : 48 ≤ c.toNat := hlow
    have hhigh : c.toNat ≤ 57 := hhigh
    refine ⟨c.toNat - 48, by omega, ?_⟩
    have hback : '0'.toNat + (c.toNat - 48) = c.toNat := Nat.add_sub_cancel' hlow
    rw [digit, if_pos (by omega), hback, Char.ofNat_toNat]
  · have hlow : 65 ≤ c.toNat := hlow
    have hhigh : c.toNat ≤ 70 := hhigh
    refine ⟨c.toNat - 65 + 10, by omega, ?_⟩
    have hback : 'A'.toNat + (c.toNat - 65) = c.toNat := Nat.add_sub_cancel' hlow
    rw [digit, if_neg (by omega), Nat.add_sub_cancel, hback, Char.ofNat_toNat]

end Hex

namespace Percent

/-- Whether a byte is that of an unreserved character. -/
def isUnreservedByte (b : UInt8) : Bool := isUnreserved (Char.ofNat b.toNat)

/-- Texts of unreserved characters and of escapes, these in upper case and for other bytes. -/
inductive IsCoded : Text → Prop where
  /-- the empty text -/
  | nil : IsCoded []
  /-- an unreserved character -/
  | kept {c : Char} {s : Text} (hc : isUnreserved c = true) (rest : IsCoded s) : IsCoded (c :: s)
  /-- an escape of some other byte -/
  | escaped {high low : Char} {b : UInt8} {s : Text} (hhigh : Hex.IsUpperDigit high)
      (hlow : Hex.IsUpperDigit low) (hbytes : bytes ['%', high, low] = [b])
      (hb : isUnreservedByte b = false) (rest : IsCoded s) : IsCoded ('%' :: high :: low :: s)

/-- The one coded text of a byte. -/
def codeByte (b : UInt8) : Text := if isUnreservedByte b then [Char.ofNat b.toNat] else escapeByte b

/-! ## Coded texts and bytes -/

theorem toNat_lt_of_isUnreserved {c : Char} (h : isUnreserved c = true) : c.toNat < 0x80 := by
  have hencoded : isEncoded c = true := by simp [isEncoded, h]
  exact Nat.lt_trans (toNat_of_isEncoded hencoded).2 (by decide)

theorem toNat_lt_of_isUnreservedByte {b : UInt8} (h : isUnreservedByte b = true) :
    b.toNat < 0x80 := by
  have hb : (Char.ofNat b.toNat).toNat = b.toNat := by
    rw [Char.ofNat, dif_pos (.inl (Nat.lt_trans b.toNat_lt (by decide)))]
    rfl
  rw [← hb]
  exact toNat_lt_of_isUnreserved h

theorem ofNat_toNat_byte {c : Char} (h : c.toNat < 0x80) :
    Char.ofNat (UInt8.ofNat c.toNat).toNat = c := by
  rw [UInt8.toNat_ofNat_of_lt' (Nat.lt_trans h (by decide)), Char.ofNat_toNat]

theorem codeByte_of_isUnreserved {c : Char} (h : isUnreserved c = true) :
    codeByte (UInt8.ofNat c.toNat) = [c] := by
  rw [codeByte, isUnreservedByte, ofNat_toNat_byte (toNat_lt_of_isUnreserved h), if_pos h]

theorem IsCoded.codeByte (b : UInt8) {s : Text} (h : IsCoded s) :
    IsCoded (Percent.codeByte b ++ s) := by
  rw [Percent.codeByte]
  cases hb : isUnreservedByte b with
  | true => exact .kept hb h
  | false =>
    have hlt : b.toNat < 256 := b.toNat_lt
    refine .escaped (Hex.isUpperDigit_digit (by omega)) (Hex.isUpperDigit_digit (by omega)) ?_ hb h
    simpa [escapeByte, bytes] using bytes_escapeByte b []

/-- All bytes have a coded text. -/
theorem isCoded_flatMap (bs : List UInt8) : IsCoded (bs.flatMap Percent.codeByte) := by
  induction bs with
  | nil => exact .nil
  | cons b bs ih => exact ih.codeByte b

/-- An escape in upper case is the one that is written for its byte. -/
theorem escape_eq {high low : Char} (hhigh : Hex.IsUpperDigit high) (hlow : Hex.IsUpperDigit low)
    {b : UInt8} (hbytes : bytes ['%', high, low] = [b]) : ['%', high, low] = escapeByte b := by
  obtain ⟨m, hm, rfl⟩ := hhigh.exists_digit
  obtain ⟨n, hn, rfl⟩ := hlow.exists_digit
  simp only [bytes, ↓reduceIte, Hex.value?_digit hm, Hex.value?_digit hn, List.cons.injEq,
    and_true] at hbytes
  have hdiv : (m * 16 + n) / 16 = m := by omega
  have hmod : (m * 16 + n) % 16 = n := by omega
  rw [escapeByte, ← hbytes, UInt8.toNat_ofNat_of_lt' (by simp only [UInt8.size]; omega), hdiv, hmod]

/-- **A coded text is known from its bytes.** -/
theorem IsCoded.eq_flatMap {t : Text} (h : IsCoded t) : t = (bytes t).flatMap Percent.codeByte := by
  induction h with
  | nil => rfl
  | @kept c s hc hs ih =>
    have hne : c ≠ '%' := isUnreserved_ne hc (by decide)
    rw [bytes_of_ne hne, Utf8.utf8EncodeChar_of_lt (toNat_lt_of_isUnreserved hc),
      List.singleton_append, List.flatMap_cons, codeByte_of_isUnreserved hc, ← ih]
    rfl
  | @escaped high low b s hhigh hlow hbytes hb hs ih =>
    have htext : '%' :: high :: low :: s = escapeByte b ++ s := by
      rw [← escape_eq hhigh hlow hbytes]
      rfl
    rw [htext, bytes_escapeByte, List.flatMap_cons, ← ih]
    simp [Percent.codeByte, hb]

/-! ## What is written -/

/-- A character that is escaped has no byte of an unreserved one. -/
theorem isUnreservedByte_of_mem {c : Char} (hc : isUnreserved c = false) {b : UInt8}
    (hb : b ∈ String.utf8EncodeChar c) : isUnreservedByte b = false := by
  by_cases hascii : c.toNat < 0x80
  · rw [Utf8.utf8EncodeChar_of_lt hascii, List.mem_singleton] at hb
    rw [isUnreservedByte, hb, ofNat_toNat_byte hascii, hc]
  · apply Bool.eq_false_iff.2
    intro hbyte
    have hlow := Utf8.le_toNat_of_mem_utf8EncodeChar (Nat.le_of_not_lt hascii) hb
    have hhigh := toNat_lt_of_isUnreservedByte hbyte
    omega

theorem escapeChar_eq_flatMap (c : Char) :
    escapeChar isUnreserved c = (String.utf8EncodeChar c).flatMap codeByte := by
  rw [escapeChar]
  cases hc : isUnreserved c with
  | true =>
    rw [Utf8.utf8EncodeChar_of_lt (toNat_lt_of_isUnreserved hc)]
    simp [codeByte_of_isUnreserved hc]
  | false =>
    apply List.flatMap_congr
    intro b hb
    simp [codeByte, isUnreservedByte_of_mem hc hb]

/-- **What is written is the coded text of the bytes.** -/
theorem encode_eq_flatMap (s : Text) : encode s = (Utf8.encode s).flatMap codeByte := by
  induction s with
  | nil => rfl
  | cons c s ih =>
    rw [encode_cons, Utf8.encode_cons, List.flatMap_append, escapeChar_eq_flatMap, ih]

/-- **The texts in written form are the coded ones whose bytes are UTF-8.** -/
theorem isWritten_iff {t : Text} : IsWritten t ↔ IsCoded t ∧ ∃ s, Utf8.encode s = bytes t := by
  constructor
  · rintro ⟨s, rfl⟩
    refine ⟨?_, s, (bytes_encode s).symm⟩
    rw [encode_eq_flatMap]
    exact isCoded_flatMap _
  · rintro ⟨hcoded, s, hs⟩
    refine ⟨s, ?_⟩
    rw [hcoded.eq_flatMap, ← hs, encode_eq_flatMap]

/-- **Each text has one written form.** It is coded, and read as the text. Whatever is read and
written again, broken escapes, bytes that are not UTF-8 and `+` included, is in written form, and
does not change again. -/
theorem encode_canonical :
    (∀ s, IsCoded (encode s) ∧ decode (encode s) = s) ∧ Function.Injective encode ∧
      (∀ t, (∃ s, encode s = t) ↔ IsCoded t ∧ ∃ s, Utf8.encode s = bytes t) ∧
      ∀ t, encode (decode (encode (decode t))) = encode (decode t) ∧
        (encode (decode t) = t ↔ ∃ s, encode s = t) := by
  refine ⟨fun s => ⟨?_, decode_encode s⟩, ?_, fun t => isWritten_iff, fun t => ⟨?_, ?_⟩⟩
  · exact (isWritten_iff.1 (isWritten_encode s)).1
  · intro s t h
    exact encode_injective h
  · rw [decode_encode]
  · constructor
    · intro h
      exact ⟨decode t, h⟩
    · intro h
      exact encode_decode h

example : encode (decode "%7e%zz+%FF".toList) = "~%25zz%20%EF%BF%BD".toList := by decide

end Percent

end OAuth
