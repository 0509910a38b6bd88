import OAuth.Text

/-!
# Punycode

A label with characters beyond ASCII is written in ASCII: first its ASCII characters, then, after
a `-`, a number for each other character, which says how far to move on through all places of all
characters before it is put in. The digits of a number have weights that follow the numbers
already written (`adapt`), so that most numbers are short.
-/

namespace OAuth.Domain.Punycode

/-- The number of digits. -/
def base : Nat := 36
/-- The least threshold of a last digit. -/
def leastThreshold : Nat := 1
/-- The greatest threshold of a last digit. -/
def greatestThreshold : Nat := 26
/-- The bias at the start. -/
def initialBias : Nat := 72
/-- The first character that is written as a number. -/
def initialCode : Nat := 0x80

/-- The value of a digit, in either case. -/
def digit? (c : Char) : Option Nat :=
  if 'a' ≤ c ∧ c ≤ 'z' then some (c.toNat - 'a'.toNat)
  else if 'A' ≤ c ∧ c ≤ 'Z' then some (c.toNat - 'A'.toNat)
  else if '0' ≤ c ∧ c ≤ '9' then some (c.toNat - '0'.toNat + 26)
  else none

/-- The digit of a value. -/
def digit (n : Nat) : Char :=
  if n < 26 then Char.ofNat ('a'.toNat + n) else Char.ofNat ('0'.toNat + (n - 26))

/-- A digit below this at position `k`, counted in steps of `base`, is the last of its number. -/
def threshold (bias k : Nat) : Nat :=
  if k ≤ bias then leastThreshold
  else if bias + greatestThreshold ≤ k then greatestThreshold
  else k - bias

theorem one_le_threshold (bias k : Nat) : 1 ≤ threshold bias k := by
  grind [threshold, leastThreshold, greatestThreshold]

theorem threshold_le (bias k : Nat) : threshold bias k ≤ 26 := by
  grind [threshold, leastThreshold, greatestThreshold]

/-- The bias of a number scaled down to the range of one digit, with `k` added for each step. -/
def scale (delta k : Nat) : Nat :=
  if 455 < delta then scale (delta / 35) (k + base)
  else k + 36 * delta / (delta + 38)
termination_by delta
decreasing_by omega

/-- The bias after a number, the text then having `length` characters. -/
def adapt (delta length : Nat) (isFirst : Bool) : Nat :=
  let delta := if isFirst then delta / 700 else delta / 2
  scale (delta + delta / length) 0

/-! ## Reading -/

/-- Where the reader of numbers stands. -/
structure Reader where
  /-- the text read so far -/
  text : Text
  /-- the character to put in next -/
  code : Nat := initialCode
  /-- the place to put it in -/
  index : Nat := 0
  /-- the bias of the numbers -/
  bias : Nat := initialBias
  /-- the place before the number that is being read -/
  start : Nat := 0
  /-- the weight of the next digit -/
  weight : Nat := 1
  /-- the position of the next digit, in steps of `base` -/
  position : Nat := base
  /-- whether a number has begun and not ended -/
  isWithin : Bool := false

/-- Numbers stay below this. -/
def limit : Nat := UInt32.size

/-- The character of a code, unless there is none. -/
def char? (code : Nat) : Option Char :=
  if code.isValidChar then some (Char.ofNat code) else none

/-- The reader after the last digit of a number: the character is put in. -/
def Reader.close (r : Reader) (index : Nat) : Option Reader :=
  let length := r.text.length + 1
  let code := r.code + index / length
  match char? code with
  | none => none
  | some c =>
    let place := index % length
    some {
      text := r.text.take place ++ c :: r.text.drop place
      code
      index := place + 1
      start := place + 1
      bias := adapt (index - r.start) length (r.start = 0) }

/-- The reader after a digit. -/
def Reader.step (r : Reader) (c : Char) : Option Reader :=
  match digit? c with
  | none => none
  | some value =>
    let index := r.index + value * r.weight
    let t := threshold r.bias r.position
    if limit ≤ index then none
    else if value < t then r.close index
    else if limit ≤ r.weight * (base - t) then none
    else
      some { r with
        index
        weight := r.weight * (base - t)
        position := r.position + base
        isWithin := true }

/-- The reader after some digits. -/
def Reader.run (r : Reader) : Text → Option Reader
  | [] => some r
  | c :: rest => (r.step c).bind fun r => r.run rest

/-- The ASCII characters of a label, and the digits of its numbers; `none` if a `-` starts it. -/
def parts? (s : Text) : Option (Text × Text) :=
  match Text.cut? '-' s.reverse with
  | none => some ([], s)
  | some (_, []) => none
  | some (digits, front) => some (front.reverse, digits.reverse)

/-- The text of a label. -/
def decode? (s : Text) : Option Text :=
  (parts? s).bind fun (front, digits) =>
    (({ text := front : Reader }).run digits).bind fun r =>
      if r.isWithin then none else some r.text

/-! ## Writing -/

/-- The digits of a number. -/
def encodeNumber (bias n k : Nat) : Text :=
  let t := threshold bias k
  if n < t then [digit n]
  else digit (t + (n - t) % (base - t)) :: encodeNumber bias ((n - t) / (base - t)) (k + base)
termination_by n
decreasing_by
  have h₁ := one_le_threshold bias k
  have h₂ := threshold_le bias k
  have h₃ : (n - threshold bias k) / (base - threshold bias k) ≤ n - threshold bias k :=
    Nat.div_le_self _ _
  omega

/-- Where the writer of numbers stands. -/
structure Writer where
  /-- the digits written so far -/
  digits : Text := []
  /-- the distance moved since the last number -/
  delta : Nat := 0
  /-- the bias of the numbers -/
  bias : Nat := initialBias
  /-- the number of characters written -/
  count : Nat
  /-- whether no number has been written -/
  isFirst : Bool := true

/-- The writer after it has passed a character of the text, when it writes those of one code. -/
def Writer.pass (code : Nat) (w : Writer) (c : Char) : Writer :=
  if c.toNat < code then { w with delta := w.delta + 1 }
  else if c.toNat = code then
    { digits := w.digits ++ encodeNumber w.bias w.delta base
      delta := 0
      bias := adapt w.delta (w.count + 1) w.isFirst
      count := w.count + 1
      isFirst := false }
  else w

/-- The writer after all characters of some codes, in ascending order; `next` is the code that
follows the last one written. -/
def Writer.run (s : Text) (w : Writer) (next : Nat) : List Nat → Writer
  | [] => w
  | code :: rest =>
    let start := { w with delta := w.delta + (code - next) * (w.count + 1) }
    let passed := s.foldl (Writer.pass code) start
    Writer.run s { passed with delta := passed.delta + 1 } (code + 1) rest

/-- The codes beyond ASCII in a text, in ascending order, each once. -/
def codes (s : Text) : List Nat :=
  (((s.map Char.toNat).filter (initialCode ≤ ·)).mergeSort (· ≤ ·)).eraseDups

/-- The label of a text. -/
def encode (s : Text) : Text :=
  let front := s.filter fun c => c.toNat < initialCode
  let w := Writer.run s { count := front.length } initialCode (codes s)
  match front with
  | [] => w.digits
  | front => front ++ '-' :: w.digits

end OAuth.Domain.Punycode
