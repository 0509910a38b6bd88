import OAuth.Text.Order
import OAuth.Text.Utf8

/-!
# The order of bytes

UTF-8 keeps order: texts are ordered by their characters as their bytes are. Main statement:
`Utf8.precedes_encode_iff`.
-/

namespace OAuth.Utf8

/-- Lists of bytes by the first bytes that differ. -/
def Precedes (a b : List UInt8) : Prop := List.Lex (· < ·) a b

instance (a b : List UInt8) : Decidable (Precedes a b) := List.decidableLex (· < ·) a b

/-- Bytes are ordered by the first one, unless it is the same. -/
theorem precedes_cons {m n : Nat} {a b : List UInt8} (hm : m < 256) (hn : n < 256) (hle : m ≤ n)
    (h : m = n → Precedes a b) : Precedes (UInt8.ofNat m :: a) (UInt8.ofNat n :: b) := by
  rcases Nat.lt_or_eq_of_le hle with hlt | rfl
  · refine .rel (UInt8.lt_iff_toNat_lt.2 ?_)
    rwa [UInt8.toNat_ofNat_of_lt' hm, UInt8.toNat_ofNat_of_lt' hn]
  · exact .cons (h rfl)

/-- The bytes of a lesser character come first, whatever follows. -/
theorem precedes_utf8EncodeChar {c d : Char} (h : c.toNat < d.toNat) (a b : List UInt8) :
    Precedes (String.utf8EncodeChar c ++ a) (String.utf8EncodeChar d ++ b) := by
  have hd : d.toNat < 0xD800 ∨ 0xDFFF < d.toNat ∧ d.toNat < 0x110000 := d.valid
  simp only [String.utf8EncodeChar, show c.val.toNat = c.toNat from rfl,
    show d.val.toNat = d.toNat from rfl]
  generalize c.toNat = v at *
  generalize d.toNat = w at *
  -- a longer sequence has a greater first byte; sequences of one length are compared byte by byte
  by_cases h₁ : v ≤ 0x7F
  · rw [if_pos h₁]
    split
    · exact precedes_cons (by omega) (by omega) (by omega) (by omega)
    split
    · exact precedes_cons (by omega) (by omega) (by omega) (by omega)
    split
    · exact precedes_cons (by omega) (by omega) (by omega) (by omega)
    · exact precedes_cons (by omega) (by omega) (by omega) (by omega)
  rw [if_neg h₁, if_neg (show ¬ w ≤ 0x7F by omega)]
  by_cases h₂ : v ≤ 0x7FF
  · rw [if_pos h₂]
    split
    · exact precedes_cons (by omega) (by omega) (by omega) fun _ =>
        precedes_cons (by omega) (by omega) (by omega) (by omega)
    split
    · exact precedes_cons (by omega) (by omega) (by omega) (by omega)
    · exact precedes_cons (by omega) (by omega) (by omega) (by omega)
  rw [if_neg h₂, if_neg (show ¬ w ≤ 0x7FF by omega)]
  by_cases h₃ : v ≤ 0xFFFF
  · rw [if_pos h₃]
    split
    · exact precedes_cons (by omega) (by omega) (by omega) fun _ =>
        precedes_cons (by omega) (by omega) (by omega) fun _ =>
          precedes_cons (by omega) (by omega) (by omega) (by omega)
    · exact precedes_cons (by omega) (by omega) (by omega) (by omega)
  · rw [if_neg h₃, if_neg (show ¬ w ≤ 0xFFFF by omega)]
    exact precedes_cons (by omega) (by omega) (by omega) fun _ =>
      precedes_cons (by omega) (by omega) (by omega) fun _ =>
        precedes_cons (by omega) (by omega) (by omega) fun _ =>
          precedes_cons (by omega) (by omega) (by omega) (by omega)

theorem precedes_append (front : List UInt8) {a b : List UInt8} (h : Precedes a b) :
    Precedes (front ++ a) (front ++ b) := by
  induction front with
  | nil => exact h
  | cons first front ih => exact .cons ih

/-- A character in ASCII has one byte. -/
theorem utf8EncodeChar_of_lt {c : Char} (h : c.toNat < 0x80) :
    String.utf8EncodeChar c = [UInt8.ofNat c.toNat] := by
  have hle : c.val.toNat ≤ 0x7F := Nat.le_of_lt_succ h
  rw [String.utf8EncodeChar, if_pos hle]
  rfl

/-- Text in ASCII is written with a byte for each character. -/
theorem encode_of_lt {s : Text} (h : ∀ c ∈ s, c.toNat < 0x80) :
    encode s = s.map fun c => UInt8.ofNat c.toNat := by
  induction s with
  | nil => rfl
  | cons c s ih =>
    rw [encode_cons, ih fun d hd => h d (List.mem_cons_of_mem _ hd),
      utf8EncodeChar_of_lt (h c List.mem_cons_self)]
    rfl

theorem length_encode_of_lt {s : Text} (h : ∀ c ∈ s, c.toNat < 0x80) :
    (encode s).length = s.length := by
  rw [encode_of_lt h, List.length_map]

/-- The bytes of a character beyond ASCII are beyond ASCII too. -/
theorem le_toNat_of_mem_utf8EncodeChar {c : Char} (hc : 0x80 ≤ c.toNat) {b : UInt8}
    (hb : b ∈ String.utf8EncodeChar c) : 0x80 ≤ b.toNat := by
  have hvalid : c.toNat < 0xD800 ∨ 0xDFFF < c.toNat ∧ c.toNat < 0x110000 := c.valid
  have hbyte : ∀ n, 0x80 ≤ n → n < 256 → 0x80 ≤ (UInt8.ofNat n).toNat := by
    intro n hlow hhigh
    rwa [UInt8.toNat_ofNat_of_lt' hhigh]
  simp only [String.utf8EncodeChar, show c.val.toNat = c.toNat from rfl] at hb
  generalize c.toNat = v at *
  rw [if_neg (by omega)] at hb
  split at hb
  · simp only [List.mem_cons, List.not_mem_nil, or_false] at hb
    rcases hb with rfl | rfl <;> exact hbyte _ (by omega) (by omega)
  split at hb
  · simp only [List.mem_cons, List.not_mem_nil, or_false] at hb
    rcases hb with rfl | rfl | rfl <;> exact hbyte _ (by omega) (by omega)
  · simp only [List.mem_cons, List.not_mem_nil, or_false] at hb
    rcases hb with rfl | rfl | rfl | rfl <;> exact hbyte _ (by omega) (by omega)

theorem utf8EncodeChar_ne_nil (c : Char) : String.utf8EncodeChar c ≠ [] := by
  unfold String.utf8EncodeChar
  grind

theorem precedes_encode {s t : Text} (h : s.Before t) : Precedes (encode s) (encode t) := by
  unfold Text.Before at h
  induction h with
  | @nil c t =>
    obtain ⟨first, rest, hbytes⟩ := List.exists_cons_of_ne_nil (utf8EncodeChar_ne_nil c)
    rw [encode_cons, hbytes]
    exact .nil
  | cons h ih => exact precedes_append _ ih
  | rel h => exact precedes_utf8EncodeChar (UInt32.lt_iff_toNat_lt.1 (Char.lt_def.1 h)) _ _

/-- **The order of bytes is the order of characters.** -/
theorem precedes_encode_iff {s t : Text} : Precedes (encode s) (encode t) ↔ s.Before t := by
  refine ⟨fun h => ?_, precedes_encode⟩
  have hasymm : ∀ {a b : List UInt8}, Precedes a b → ¬ Precedes b a :=
    List.lex_asymm fun hlt hgt => UInt8.lt_irrefl _ (UInt8.lt_trans hlt hgt)
  rcases Text.before_total s t with hbefore | rfl | hafter
  · exact hbefore
  · exact absurd h (hasymm h)
  · exact absurd h (hasymm (precedes_encode hafter))

end OAuth.Utf8
