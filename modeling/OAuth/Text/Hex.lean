import OAuth.Text

/-!
# Hexadecimal digits

The digits of a percent escape. `Hex.value?_digit` and `Hex.value?_lowerDigit` say that both
spellings of a digit are read.
-/

namespace OAuth.Hex

/-- The value of a digit, in either case. -/
def value? (c : Char) : Option Nat :=
  if '0' ≤ c ∧ c ≤ '9' then some (c.toNat - '0'.toNat)
  else if 'A' ≤ c ∧ c ≤ 'F' then some (c.toNat - 'A'.toNat + 10)
  else if 'a' ≤ c ∧ c ≤ 'f' then some (c.toNat - 'a'.toNat + 10)
  else none

/-- The upper-case digit of a value below sixteen. -/
def digit (n : Nat) : Char :=
  if n < 10 then Char.ofNat ('0'.toNat + n) else Char.ofNat ('A'.toNat + (n - 10))

/-- The lower-case digit of a value below sixteen. -/
def lowerDigit (n : Nat) : Char :=
  if n < 10 then Char.ofNat ('0'.toNat + n) else Char.ofNat ('a'.toNat + (n - 10))

theorem value?_digit {n : Nat} (h : n < 16) : value? (digit n) = some n := by
  have all : ∀ m ∈ List.range 16, value? (digit m) = some m := by decide
  exact all n (List.mem_range.2 h)

theorem value?_lowerDigit {n : Nat} (h : n < 16) : value? (lowerDigit n) = some n := by
  have all : ∀ m ∈ List.range 16, value? (lowerDigit m) = some m := by decide
  exact all n (List.mem_range.2 h)

theorem value?_lt {c : Char} {n : Nat} (h : value? c = some n) : n < 16 := by
  simp only [value?, Char.le_def, UInt32.le_iff_toNat_le] at h
  have : c.toNat = c.val.toNat := rfl
  split at h
  · cases h; simp_all; omega
  split at h
  · cases h; simp_all; omega
  split at h
  · cases h; simp_all; omega
  · cases h

/-- The two lower-case digits of a byte. -/
def ofByte (b : UInt8) : Text := [lowerDigit (b.toNat / 16), lowerDigit (b.toNat % 16)]

/-- The digits of a number, most significant first, in lower case. -/
def ofNat (n : Nat) : Text := Nat.toDigits 16 n

end OAuth.Hex
