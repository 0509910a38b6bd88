import OAuth.Unicode.Combining
import OAuth.Unicode.Composite

/-!
# Composed normal form

A text in which each character is taken apart (`decompose`), the marks on a character are put in
order (`order`), and all is composed again (`compose`). Two texts that look the same have one
normal form.
-/

namespace OAuth.Unicode

/-! ## Hangul -/

/-- The syllables of Hangul, from this code point on. -/
def syllables : Nat := 0xAC00
/-- The leading consonants, from this code point on, 19 of them. -/
def leads : Nat := 0x1100
/-- The vowels, from this code point on, 21 of them. -/
def vowels : Nat := 0x1161
/-- One before the trailing consonants, 27 of them. -/
def trails : Nat := 0x11A7

/-- The letters of a syllable. -/
def syllableLetters? (c : Char) : Option Text :=
  if syllables ≤ c.toNat ∧ c.toNat < syllables + 19 * 21 * 28 then
    let index := c.toNat - syllables
    let two := [Char.ofNat (leads + index / (21 * 28)), Char.ofNat (vowels + index / 28 % 21)]
    if index % 28 = 0 then some two else some (two ++ [Char.ofNat (trails + index % 28)])
  else none

/-- The syllable of a consonant and a vowel, or of an open syllable and a consonant. -/
def syllable? (a b : Char) : Option Char :=
  if leads ≤ a.toNat ∧ a.toNat < leads + 19 ∧ vowels ≤ b.toNat ∧ b.toNat < vowels + 21 then
    some (Char.ofNat (syllables + ((a.toNat - leads) * 21 + (b.toNat - vowels)) * 28))
  else if syllables ≤ a.toNat ∧ a.toNat < syllables + 19 * 21 * 28 ∧
      (a.toNat - syllables) % 28 = 0 ∧ trails < b.toNat ∧ b.toNat < trails + 28 then
    some (Char.ofNat (a.toNat + (b.toNat - trails)))
  else none

/-! ## Taking apart -/

/-- A character taken apart at most `steps` times. -/
def decomposeWithin : (steps : Nat) → Char → Text
  | 0, c => [c]
  | steps + 1, c =>
    match compositeTable.find? c.toNat with
    | some (base, mark) => decomposeWithin steps base ++ [mark]
    | none => [c]

/-- A character taken apart; no composite is nested deeper than this. -/
def decomposeChar (c : Char) : Text :=
  match syllableLetters? c with
  | some letters => letters
  | none => decomposeWithin 4 c

/-- A text with each character taken apart. -/
def decompose (s : Text) : Text := s.flatMap decomposeChar

/-! ## Putting marks in order -/

/-- A character before an ordered text, behind the marks that go first. -/
def insertMark (c : Char) : Text → Text
  | [] => [c]
  | d :: rest =>
    if 0 < combiningClass d ∧ combiningClass d < combiningClass c then d :: insertMark c rest
    else c :: d :: rest

/-- A text with the marks on each character in order. -/
def order : Text → Text
  | [] => []
  | c :: rest => insertMark c (order rest)

/-! ## Composing -/

/-- The composite of two characters. -/
def composite? (a b : Char) : Option Char :=
  match syllable? a b with
  | some c => some c
  | none =>
    (List.find? (fun entry => entry.2 = (a, b)) compositeTable).map fun entry =>
      Char.ofNat entry.1.low

/-- An ordered text composed, from a character on; `marks` are those on it that did not compose,
the last one first. -/
def composeFrom (base : Char) (marks : Text) : Text → Text
  | [] => base :: marks.reverse
  | c :: rest =>
    let blocked := match marks with
      | [] => false
      | last :: _ => combiningClass c ≤ combiningClass last
    match if blocked then none else composite? base c with
    | some composed => composeFrom composed marks rest
    | none =>
      if combiningClass c = 0 then base :: (marks.reverse ++ composeFrom c [] rest)
      else composeFrom base (c :: marks) rest

/-- An ordered text composed. -/
def compose : Text → Text
  | [] => []
  | c :: rest => composeFrom c [] rest

/-- The composed normal form of a text. -/
def normal (s : Text) : Text := compose (order (decompose s))

end OAuth.Unicode
