import OAuth.BigEndian

/-!
# Elements of keys

A key is stored as nested elements, each a tag, a length and that many bytes. There is one way to
write each element: lengths are as short as they can be, and so are numbers. `Der.length_of_read?`
says that reading an element gets on.
-/

namespace OAuth.Der

/-- A tag and what stands under it. -/
structure Element where
  /-- the byte that says what the element is -/
  tag : UInt8
  /-- the bytes of the element -/
  content : List UInt8
  deriving DecidableEq, Repr

/-- The tags of general elements. -/
def generalTags : List UInt8 :=
  [0x01, 0x02, 0x03, 0x04, 0x05, 0x06, 0x09, 0x0A, 0x0C, 0x12, 0x13, 0x14, 0x15, 0x16, 0x17, 0x18,
    0x1A, 0x1E, 0x30, 0x31]

/-- Whether a byte is a tag: that of a general element, or one with a meaning of its own and a
number below 31. -/
def isTag (tag : UInt8) : Bool :=
  if tag < 0x40 then generalTags.contains tag else tag &&& 0x1F != 0x1F

/-- The least length that takes so many bytes, the first of which only tells their number. -/
def leastLength (count : Nat) : Nat := if count = 1 then 0x80 else 1 <<< (8 * (count - 1))

/-- The length in the next bytes, of which there are one to four, and what follows it. -/
def readLongLength? (count : Nat) (bytes : List UInt8) : Option (Nat × List UInt8) :=
  if 1 ≤ count ∧ count ≤ 4 ∧ count ≤ bytes.length ∧
      leastLength count ≤ BigEndian.toNat (bytes.take count) then
    some (BigEndian.toNat (bytes.take count), bytes.drop count)
  else none

/-- The length at the start of some bytes, and what follows it. -/
def readLength? : List UInt8 → Option (Nat × List UInt8)
  | [] => none
  | first :: rest =>
    if first.toNat < 0x80 then some (first.toNat, rest)
    else readLongLength? (first.toNat - 0x80) rest

/-- The element at the start of some bytes, and what follows it. -/
def read? : List UInt8 → Option (Element × List UInt8)
  | [] => none
  | tag :: rest =>
    if isTag tag then
      match readLength? rest with
      | some (length, rest) =>
        if length ≤ rest.length then some (⟨tag, rest.take length⟩, rest.drop length) else none
      | none => none
    else none

/-- The content of an element with a given tag at the start of some bytes, and what follows it. -/
def readTagged? (tag : UInt8) (bytes : List UInt8) : Option (List UInt8 × List UInt8) :=
  match read? bytes with
  | some (element, rest) => if element.tag = tag then some (element.content, rest) else none
  | none => none

/-- The content of an element with a given tag that nothing follows. -/
def readOnly? (tag : UInt8) (bytes : List UInt8) : Option (List UInt8) :=
  match readTagged? tag bytes with
  | some (content, []) => some content
  | _ => none

/-- Whether the content of a number is as short as it can be, and the number not negative. -/
def isShortest : List UInt8 → Bool
  | [] => false
  | [b] => b < 0x80
  | 0 :: b :: _ => 0x80 ≤ b
  | b :: _ => b < 0x80

/-- The number at the start of some bytes, and what follows it. -/
def readNumber? (bytes : List UInt8) : Option (Nat × List UInt8) :=
  match readTagged? 0x02 bytes with
  | some (content, rest) =>
    if isShortest content then some (BigEndian.toNat content, rest) else none
  | none => none

/-- So many numbers at the start of some bytes, and what follows them. -/
def readNumbers? : (count : Nat) → List UInt8 → Option (List Nat × List UInt8)
  | 0, bytes => some ([], bytes)
  | count + 1, bytes =>
    match readNumber? bytes with
    | none => none
    | some (n, rest) => (readNumbers? count rest).map fun (ns, rest) => (n :: ns, rest)

theorem length_of_readLength? {bytes rest : List UInt8} {n : Nat}
    (h : readLength? bytes = some (n, rest)) : rest.length < bytes.length := by
  cases bytes with
  | nil => cases h
  | cons first bytes =>
    rw [readLength?] at h
    split at h
    · cases h
      exact Nat.lt_succ_self _
    · generalize first.toNat - 0x80 = count at h
      rw [readLongLength?] at h
      split at h
      · cases h
        rw [List.length_drop, List.length_cons]
        omega
      · cases h

/-- An element takes up at least one byte. -/
theorem length_of_read? {bytes rest : List UInt8} {element : Element}
    (h : read? bytes = some (element, rest)) : rest.length < bytes.length := by
  cases bytes with
  | nil => cases h
  | cons tag bytes =>
    simp only [read?] at h
    split at h
    · split at h
      · next length after hlength =>
        have := length_of_readLength? hlength
        split at h
        · obtain ⟨_, rfl⟩ := Prod.mk.inj (Option.some.inj h)
          rw [List.length_drop, List.length_cons]
          omega
        · cases h
      · cases h
    · cases h

/-- The elements that some bytes are. -/
def readAll? (bytes : List UInt8) : Option (List Element) :=
  match _h : read? bytes with
  | some (element, rest) => (readAll? rest).map (element :: ·)
  | none => if bytes.isEmpty then some [] else none
termination_by bytes.length
decreasing_by exact length_of_read? _h

end OAuth.Der
