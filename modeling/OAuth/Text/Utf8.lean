import OAuth.Text

/-!
# UTF-8

Bytes of a text, and the text of any bytes. Reading never fails: the longest part of a broken
sequence that could still have become a character is read as one U+FFFD. The main statement is
`Utf8.decode_encode`: what was written is read back.

The reader is a machine with one byte of input per step, so that it recurses on the bytes; what
is left of a character is in `Utf8.Pending`.
-/

namespace OAuth.Utf8

/-- The bytes of a text. -/
def encode (s : Text) : List UInt8 := s.flatMap String.utf8EncodeChar

@[simp] theorem encode_nil : encode [] = [] := rfl

@[simp] theorem encode_cons (c : Char) (s : Text) :
    encode (c :: s) = String.utf8EncodeChar c ++ encode s := rfl

theorem encode_append (s t : Text) : encode (s ++ t) = encode s ++ encode t := by
  simp [encode]

/-- The character read in place of a broken sequence. -/
def replacement : Char := '\uFFFD'

/-- Where the reader stands between two bytes. -/
inductive Pending where
  /-- between characters -/
  | start
  /-- `more + 1` bytes of a character are missing, the next one from `low` to `high` -/
  | within (more low high value : Nat)
  deriving DecidableEq, Repr

/-- A byte between characters: the text it completes, and where the reader then stands. -/
def first (b : UInt8) : Text × Pending :=
  let n := b.toNat
  if n < 0x80 then ([Char.ofNat n], .start)
  else if n < 0xC2 then ([replacement], .start)
  else if n < 0xE0 then ([], .within 0 0x80 0xBF (n - 0xC0))
  else if n = 0xE0 then ([], .within 1 0xA0 0xBF 0)
  else if n = 0xED then ([], .within 1 0x80 0x9F 0xD)
  else if n < 0xF0 then ([], .within 1 0x80 0xBF (n - 0xE0))
  else if n = 0xF0 then ([], .within 2 0x90 0xBF 0)
  else if n < 0xF4 then ([], .within 2 0x80 0xBF (n - 0xF0))
  else if n = 0xF4 then ([], .within 2 0x80 0x8F 4)
  else ([replacement], .start)

/-- A byte at any place. -/
def step : Pending → UInt8 → Text × Pending
  | .start, b => first b
  | .within more low high value, b =>
    if low ≤ b.toNat ∧ b.toNat ≤ high then
      let value := value * 64 + (b.toNat - 0x80)
      match more with
      | 0 => ([Char.ofNat value], .start)
      | more + 1 => ([], .within more 0x80 0xBF value)
    else
      let (read, pending) := first b
      (replacement :: read, pending)

/-- What the reader adds when the bytes end. -/
def finish : Pending → Text
  | .start => []
  | .within .. => [replacement]

/-- The text of bytes, read from a place. -/
def run : Pending → List UInt8 → Text
  | pending, [] => finish pending
  | pending, b :: rest => (step pending b).1 ++ run (step pending b).2 rest

/-- The text of bytes. -/
def decode (bytes : List UInt8) : Text := run .start bytes

/-- The text of bytes that are UTF-8 throughout. -/
def decode? (bytes : List UInt8) : Option Text :=
  let s := decode bytes
  if encode s = bytes then some s else none

theorem encode_of_decode? {bytes : List UInt8} {s : Text} (h : decode? bytes = some s) :
    encode s = bytes := by
  simp only [decode?] at h
  split at h
  · next he => cases h; exact he
  · cases h

/-! ## Reading back -/

private theorem toNat_byte {n : Nat} (h : n < 256) : (UInt8.ofNat n).toNat = n := by
  simpa using Nat.mod_eq_of_lt h

private theorem first_one {n : Nat} (h : n < 0x80) :
    first (UInt8.ofNat n) = ([Char.ofNat n], .start) := by
  rw [first, toNat_byte (by omega), if_pos h]

private theorem first_two {n : Nat} (h : 0xC2 ≤ n) (h' : n < 0xE0) :
    first (UInt8.ofNat n) = ([], .within 0 0x80 0xBF (n - 0xC0)) := by
  rw [first, toNat_byte (by omega), if_neg (by omega), if_neg (by omega), if_pos h']

private theorem first_three {n : Nat} (h : 0xE0 ≤ n) (h' : n < 0xF0) :
    first (UInt8.ofNat n) = ([], .within 1 (if n = 0xE0 then 0xA0 else 0x80)
      (if n = 0xED then 0x9F else 0xBF) (n - 0xE0)) := by
  rw [first, toNat_byte (by omega), if_neg (by omega), if_neg (by omega), if_neg (by omega)]
  by_cases h0 : n = 0xE0
  · simp [h0]
  by_cases hd : n = 0xED
  · simp [hd]
  · rw [if_neg h0, if_neg hd, if_pos h', if_neg h0, if_neg hd]

private theorem first_four {n : Nat} (h : 0xF0 ≤ n) (h' : n ≤ 0xF4) :
    first (UInt8.ofNat n) = ([], .within 2 (if n = 0xF0 then 0x90 else 0x80)
      (if n = 0xF4 then 0x8F else 0xBF) (n - 0xF0)) := by
  rw [first, toNat_byte (by omega), if_neg (by omega), if_neg (by omega), if_neg (by omega),
    if_neg (by omega), if_neg (by omega), if_neg (by omega)]
  by_cases h0 : n = 0xF0
  · simp [h0]
  by_cases h4 : n = 0xF4
  · simp [h4]
  · rw [if_neg h0, if_pos (by omega), if_neg h0, if_neg h4]

/-- A byte that is awaited brings the character nearer. -/
private theorem step_more {more low high value n : Nat} (h : n < 256) (hl : low ≤ n)
    (hh : n ≤ high) :
    step (.within (more + 1) low high value) (UInt8.ofNat n) =
      ([], .within more 0x80 0xBF (value * 64 + (n - 0x80))) := by
  simp only [step, toNat_byte h]
  rw [if_pos ⟨hl, hh⟩]

/-- The last byte that is awaited completes the character. -/
private theorem step_last {value n : Nat} (hl : 0x80 ≤ n) (hh : n ≤ 0xBF) :
    step (.within 0 0x80 0xBF value) (UInt8.ofNat n) =
      ([Char.ofNat (value * 64 + (n - 0x80))], .start) := by
  simp only [step, toNat_byte (show n < 256 by omega)]
  rw [if_pos ⟨hl, hh⟩]

private theorem run_cons (pending : Pending) (b : UInt8) (rest : List UInt8) :
    run pending (b :: rest) = (step pending b).1 ++ run (step pending b).2 rest := rfl

theorem run_utf8EncodeChar (c : Char) (rest : List UInt8) :
    run .start (String.utf8EncodeChar c ++ rest) = c :: run .start rest := by
  have hvalid : c.toNat < 0xD800 ∨ 0xDFFF < c.toNat ∧ c.toNat < 0x110000 := c.valid
  have hback : ∀ n, n = c.toNat → Char.ofNat n = c := by rintro _ rfl; exact Char.ofNat_toNat c
  simp only [String.utf8EncodeChar, show c.val.toNat = c.toNat from rfl]
  generalize c.toNat = v at *
  have hstart : ∀ b, step .start b = first b := fun _ => rfl
  split
  · rw [List.cons_append, run_cons, hstart, first_one (by omega), hback v rfl]
    rfl
  split
  · rw [List.cons_append, run_cons, hstart, first_two (by omega) (by omega), List.cons_append,
      run_cons, step_last (by omega) (by omega), hback _ (by omega)]
    rfl
  split
  · rw [List.cons_append, run_cons, hstart, first_three (by omega) (by omega), List.cons_append,
      run_cons, step_more (by omega) (by split <;> omega) (by split <;> omega), List.cons_append,
      run_cons, step_last (by omega) (by omega), hback _ (by omega)]
    rfl
  · rw [List.cons_append, run_cons, hstart, first_four (by omega) (by omega), List.cons_append,
      run_cons, step_more (by omega) (by split <;> omega) (by split <;> omega), List.cons_append,
      run_cons, step_more (by omega) (by omega) (by omega), List.cons_append,
      run_cons, step_last (by omega) (by omega), hback _ (by omega)]
    rfl

/-- **What was written is read back.** -/
theorem decode_encode (s : Text) : decode (encode s) = s := by
  induction s with
  | nil => rfl
  | cons c s ih =>
    rw [encode_cons, decode, run_utf8EncodeChar]
    exact congrArg (c :: ·) ih

theorem decode?_encode (s : Text) : decode? (encode s) = some s := by
  simp [decode?, decode_encode]

/-- A text is known from its bytes. -/
theorem encode_injective {s t : Text} (h : encode s = encode t) : s = t := by
  rw [← decode_encode s, h, decode_encode]

end OAuth.Utf8
