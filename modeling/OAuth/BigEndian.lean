/-!
# Numbers as bytes

A number as bytes, the most significant first. The main statements say that the two directions
undo each other: `BigEndian.ofNat_toNat`, and `BigEndian.toNat_ofNat` for what the bytes can hold.
-/

namespace OAuth.BigEndian

/-- The number that bytes spell. -/
def toNat (bytes : List UInt8) : Nat := bytes.foldl (fun n b => n * 256 + b.toNat) 0

/-- The last so many bytes of a number. -/
def ofNat : (count : Nat) → Nat → List UInt8
  | 0, _ => []
  | count + 1, n => ofNat count (n / 256) ++ [UInt8.ofNat n]

theorem toNat_append (bytes : List UInt8) (b : UInt8) :
    toNat (bytes ++ [b]) = toNat bytes * 256 + b.toNat := by
  simp [toNat]

theorem length_ofNat (count n : Nat) : (ofNat count n).length = count := by
  induction count generalizing n with
  | zero => rfl
  | succ count ih => rw [ofNat, List.length_append, ih, List.length_singleton]

/-- **The number of some bytes has them as its last bytes.** -/
theorem ofNat_toNat (bytes : List UInt8) : ofNat bytes.length (toNat bytes) = bytes := by
  generalize hcount : bytes.length = count
  induction count generalizing bytes with
  | zero => rw [List.eq_nil_of_length_eq_zero hcount, ofNat]
  | succ count ih =>
    obtain ⟨front, b, rfl⟩ : ∃ front b, bytes = front ++ [b] :=
      ⟨_, _, (List.dropLast_concat_getLast (by rintro rfl; cases hcount)).symm⟩
    have hb : b.toNat < 256 := b.toNat_lt
    have hfront : (toNat front * 256 + b.toNat) / 256 = toNat front := by omega
    have hlast : UInt8.ofNat (toNat front * 256 + b.toNat) = b :=
      UInt8.toNat_inj.1 (by rw [UInt8.toNat_ofNat']; omega)
    rw [toNat_append, ofNat, hfront, hlast, ih front (by simpa using hcount)]

/-- **The last bytes of a number spell it**, but for what they cannot hold. -/
theorem toNat_ofNat (count n : Nat) : toNat (ofNat count n) = n % Nat.pow 256 count := by
  induction count generalizing n with
  | zero => exact (Nat.mod_one n).symm
  | succ count ih =>
    have hsplit : n % (256 * Nat.pow 256 count) = n % 256 + 256 * (n / 256 % Nat.pow 256 count) :=
      Nat.mod_mul
    have hpow : Nat.pow 256 (count + 1) = 256 * Nat.pow 256 count := Nat.mul_comm _ _
    rw [ofNat, toNat_append, ih, UInt8.toNat_ofNat', hpow, hsplit]
    omega

end OAuth.BigEndian
