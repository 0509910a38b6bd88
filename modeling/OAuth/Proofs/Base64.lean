import OAuth.Base64
import OAuth.Proofs.Text
import OAuth.Proofs.Utf8

/-!
# Base64 is read back

The symbols of some bytes are read as these bytes, whatever they are and however many are left over
from the groups of three. Main statement: `Base64.decode_encode`.
-/

namespace OAuth.Base64

/-! ## Symbols -/

/-- The byte of the symbol of a value. -/
def symbolByte (value : Nat) : UInt8 := UInt8.ofNat (symbol value).toNat

theorem symbol_mem (value : Nat) : symbol value ∈ alphabet := by
  rw [symbol, List.getD_eq_getElem?_getD]
  cases h : alphabet[value]? with
  | none => decide +kernel
  | some c => exact List.mem_of_getElem? h

/-- The characters that are written are symbols, or fill up the end. -/
theorem mem_of_mem_encode {bytes : List UInt8} {c : Char} (h : c ∈ encode bytes) :
    c ∈ '=' :: alphabet := by
  induction bytes using encode.induct with
  | case1 => cases h
  | case2 a =>
    simp only [encode, List.mem_cons, List.not_mem_nil, or_false] at h
    rcases h with rfl | rfl | rfl | rfl <;> simp [symbol_mem]
  | case3 a b =>
    simp only [encode, List.mem_cons, List.not_mem_nil, or_false] at h
    rcases h with rfl | rfl | rfl | rfl <;> simp [symbol_mem]
  | case4 a b d rest ih =>
    simp only [encode, List.mem_cons] at h
    rcases h with rfl | rfl | rfl | rfl | h
    · simp [symbol_mem]
    · simp [symbol_mem]
    · simp [symbol_mem]
    · simp [symbol_mem]
    · exact ih h

/-- Symbols are visible, and so is what fills up the end. -/
theorem isVisible_of_mem {c : Char} (h : c ∈ '=' :: alphabet) : Text.isVisible c = true := by
  have all : Text.IsVisible ('=' :: alphabet) := by decide +kernel
  exact all c h

theorem isVisible_encode (bytes : List UInt8) : (encode bytes).IsVisible :=
  fun _ hc => isVisible_of_mem (mem_of_mem_encode hc)

theorem dash_not_mem_encode (bytes : List UInt8) : '-' ∉ encode bytes := by
  have all : '-' ∉ '=' :: alphabet := by decide +kernel
  intro hmem
  exact all (mem_of_mem_encode hmem)

theorem value?_symbolByte {value : Nat} (h : value < 64) :
    value? (symbolByte value) = some value := by
  have all : ∀ value < 64, value? (symbolByte value) = some value := by decide +kernel
  exact all value h

/-- No symbol fills up the end. -/
theorem symbolByte_ne_pad {value : Nat} (h : value < 64) : symbolByte value ≠ pad := by
  have hnone : value? pad = none := by decide +kernel
  intro hpad
  rw [← hpad, value?_symbolByte h] at hnone
  cases hnone

/-- A character of a text in Base64 has one byte. -/
theorem toNat_lt_of_mem {c : Char} (h : c ∈ '=' :: alphabet) : c.toNat < 0x80 :=
  Nat.lt_trans (Text.isVisible_iff.1 (isVisible_of_mem h)).2 (by decide)

theorem utf8EncodeChar_symbol (value : Nat) :
    String.utf8EncodeChar (symbol value) = [symbolByte value] :=
  Utf8.utf8EncodeChar_of_lt (toNat_lt_of_mem (List.mem_cons_of_mem _ (symbol_mem value)))

theorem utf8EncodeChar_pad : String.utf8EncodeChar '=' = [pad] := by decide

/-- Whatever is written is not empty. -/
theorem encode_ne_nil {bytes : List UInt8} (h : bytes ≠ []) : encode bytes ≠ [] := by
  cases bytes using encode.induct with
  | case1 => exact absurd rfl h
  | case2 a => simp [encode]
  | case3 a b => simp [encode]
  | case4 a b c rest => simp [encode]

/-- The symbols are groups of four. -/
theorem length_encode (bytes : List UInt8) : (encode bytes).length % 4 = 0 := by
  induction bytes using encode.induct with
  | case1 => rfl
  | case2 a => simp [encode]
  | case3 a b => simp [encode]
  | case4 a b c rest ih =>
    simp only [encode, List.length_cons]
    omega

/-! ## Groups -/

theorem valueAt_symbolByte {value : Nat} (h : value < 64) (offset : Nat) :
    valueAt offset (symbolByte value) = .ok value := by
  rw [valueAt, value?_symbolByte h]

/-- A symbol of the last group is read with the rest of it. -/
theorem readLast_symbolByte {value : Nat} (h : value < 64) (start symbols : Nat)
    (rest : List UInt8) : readLast start symbols (symbolByte value :: rest) =
      (readLast start (symbols + 1) rest).map fun (values, pads) => (value :: values, pads) := by
  rw [readLast, if_neg (symbolByte_ne_pad h), valueAt_symbolByte h]
  cases readLast start (symbols + 1) rest <;> rfl

theorem ofNat_eq {n : Nat} {b : UInt8} (h : n = b.toNat) : UInt8.ofNat n = b := by
  rw [h, UInt8.ofNat_toNat]

/-- One byte that is left over is filled up twice. -/
theorem decodeLast_one (start : Nat) (a : UInt8) :
    decodeLast start [symbolByte (a.toNat / 4), symbolByte (a.toNat % 4 * 16), pad, pad] =
      .ok [a] := by
  have ha := a.toNat_lt
  have hread : readLast start 0
      [symbolByte (a.toNat / 4), symbolByte (a.toNat % 4 * 16), pad, pad] =
        .ok ([a.toNat / 4, a.toNat % 4 * 16], 2) := by
    rw [readLast_symbolByte (by omega), readLast_symbolByte (by omega)]
    rfl
  have hbits : a.toNat % 4 * 16 % 16 = 0 := by omega
  simp only [decodeLast, hread, bind, Except.bind, hbits]
  rw [if_neg (by simp), if_pos trivial, ofNat_eq (b := a) (by omega)]

/-- Two bytes that are left over are filled up once. -/
theorem decodeLast_two (start : Nat) (a b : UInt8) :
    decodeLast start [symbolByte (a.toNat / 4), symbolByte (a.toNat % 4 * 16 + b.toNat / 16),
      symbolByte (b.toNat % 16 * 4), pad] = .ok [a, b] := by
  have ha := a.toNat_lt
  have hb := b.toNat_lt
  have hread : readLast start 0 [symbolByte (a.toNat / 4),
      symbolByte (a.toNat % 4 * 16 + b.toNat / 16), symbolByte (b.toNat % 16 * 4), pad] =
        .ok ([a.toNat / 4, a.toNat % 4 * 16 + b.toNat / 16, b.toNat % 16 * 4], 1) := by
    rw [readLast_symbolByte (by omega), readLast_symbolByte (by omega),
      readLast_symbolByte (by omega)]
    rfl
  have hbits : b.toNat % 16 * 4 % 4 = 0 := by omega
  simp only [decodeLast, hread, bind, Except.bind, hbits]
  rw [if_neg (by simp), if_pos trivial, ofNat_eq (b := a) (by omega),
    ofNat_eq (b := b) (by omega)]

theorem threeBytes_eq (a b c : UInt8) :
    threeBytes (a.toNat / 4) (a.toNat % 4 * 16 + b.toNat / 16) (b.toNat % 16 * 4 + c.toNat / 64)
      (c.toNat % 64) = [a, b, c] := by
  have ha := a.toNat_lt
  have hb := b.toNat_lt
  have hc := c.toNat_lt
  rw [threeBytes, ofNat_eq (b := a) (by omega), ofNat_eq (b := b) (by omega),
    ofNat_eq (b := c) (by omega)]

/-- Three bytes at the end are not filled up. -/
theorem decodeLast_three (start : Nat) (a b c : UInt8) :
    decodeLast start [symbolByte (a.toNat / 4), symbolByte (a.toNat % 4 * 16 + b.toNat / 16),
      symbolByte (b.toNat % 16 * 4 + c.toNat / 64), symbolByte (c.toNat % 64)] =
      .ok [a, b, c] := by
  have ha := a.toNat_lt
  have hb := b.toNat_lt
  have hc := c.toNat_lt
  have hread : readLast start 0 [symbolByte (a.toNat / 4),
      symbolByte (a.toNat % 4 * 16 + b.toNat / 16),
      symbolByte (b.toNat % 16 * 4 + c.toNat / 64), symbolByte (c.toNat % 64)] =
        .ok ([a.toNat / 4, a.toNat % 4 * 16 + b.toNat / 16, b.toNat % 16 * 4 + c.toNat / 64,
          c.toNat % 64], 0) := by
    rw [readLast_symbolByte (by omega), readLast_symbolByte (by omega),
      readLast_symbolByte (by omega), readLast_symbolByte (by omega)]
    rfl
  simp only [decodeLast, hread, bind, Except.bind]
  rw [if_neg (by simp)]
  exact congrArg Except.ok (threeBytes_eq a b c)

/-- Bytes that are written in groups are read in groups, wherever the first of them stands. -/
theorem decodeFrom_encode (start : Nat) (bytes : List UInt8) :
    decodeFrom start (Utf8.encode (encode bytes)) = .ok bytes := by
  induction bytes using encode.induct generalizing start with
  | case1 => rfl
  | case2 a =>
    simp only [encode, Utf8.encode_cons, utf8EncodeChar_symbol, utf8EncodeChar_pad]
    exact decodeLast_one start a
  | case3 a b =>
    simp only [encode, Utf8.encode_cons, utf8EncodeChar_symbol, utf8EncodeChar_pad]
    exact decodeLast_two start a b
  | case4 a b c rest ih =>
    have ha := a.toNat_lt
    have hb := b.toNat_lt
    have hc := c.toNat_lt
    simp only [encode, Utf8.encode_cons, utf8EncodeChar_symbol, List.singleton_append]
    cases hrest : Utf8.encode (encode rest) with
    | nil =>
      -- the group is the last
      have ih := ih start
      rw [hrest] at ih
      obtain rfl : [] = rest := Except.ok.inj ih
      exact decodeLast_three start a b c
    | cons e more =>
      have ih := ih (start + 4)
      rw [hrest] at ih
      rw [decodeFrom, valueAt_symbolByte (by omega), valueAt_symbolByte (by omega),
        valueAt_symbolByte (by omega), valueAt_symbolByte (by omega), ih]
      exact congrArg (fun bytes => Except.ok (bytes ++ rest)) (threeBytes_eq a b c)

/-- **What was written is read back.** -/
theorem decode_encode (bytes : List UInt8) : decode (encode bytes) = .ok bytes := by
  have hlength : (Utf8.encode (encode bytes)).length = (encode bytes).length := by
    apply Utf8.length_encode_of_lt
    intro c hc
    exact toNat_lt_of_mem (mem_of_mem_encode hc)
  have hstray : strayEnd? (Utf8.encode (encode bytes)) = none := by
    have hgroups := length_encode bytes
    rw [strayEnd?, if_neg (by omega)]
  rw [decode, decodeBytes, hstray]
  exact decodeFrom_encode 0 bytes

/-- Two bytes are left over from the groups. -/
example : encode (Utf8.encode "OAuth".toList) = "T0F1dGg=".toList := by decide +kernel

end OAuth.Base64
