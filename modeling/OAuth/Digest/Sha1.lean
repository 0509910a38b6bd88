import OAuth.BigEndian

/-!
# SHA-1

A message is filled up to whole blocks of sixteen words. Each block is spread to eighty words,
which are worked one by one into five words of state; the state after the last block is the
digest. `Sha1.length_digest` says that it has twenty bytes.
-/

namespace OAuth.Sha1

/-- The five words of state. -/
structure State where
  a : UInt32
  b : UInt32
  c : UInt32
  d : UInt32
  e : UInt32
  deriving DecidableEq, Repr

/-- The state before the first block. -/
def initial : State := ⟨0x67452301, 0xEFCDAB89, 0x98BADCFE, 0x10325476, 0xC3D2E1F0⟩

/-- A word turned left. -/
def rotate (w places : UInt32) : UInt32 := (w <<< places) ||| (w >>> (32 - places))

/-- A message filled up: a one bit, zeros, and the number of bits in eight bytes. -/
def padded (message : List UInt8) : List UInt8 :=
  message ++ 0x80 :: List.replicate ((119 - message.length % 64) % 64) 0 ++
    BigEndian.ofNat 8 (message.length * 8)

/-- The words of bytes. -/
def words : List UInt8 → List UInt32
  | a :: b :: c :: d :: rest =>
    ((a.toUInt32 <<< 24) ||| (b.toUInt32 <<< 16) ||| (c.toUInt32 <<< 8) ||| d.toUInt32) ::
      words rest
  | _ => []

/-- Words spread by some more, the last one first. -/
def spread : (more : Nat) → List UInt32 → List UInt32
  | 0, ws => ws
  | more + 1, ws =>
    let next := rotate (ws.getD 2 0 ^^^ ws.getD 7 0 ^^^ ws.getD 13 0 ^^^ ws.getD 15 0) 1
    spread more (next :: ws)

/-- How the words of state are mixed in a round, and the constant of the round. -/
def mix (round : Nat) (s : State) : UInt32 × UInt32 :=
  if round < 20 then ((s.b &&& s.c) ||| (~~~s.b &&& s.d), 0x5A827999)
  else if round < 40 then (s.b ^^^ s.c ^^^ s.d, 0x6ED9EBA1)
  else if round < 60 then ((s.b &&& s.c) ||| (s.b &&& s.d) ||| (s.c &&& s.d), 0x8F1BBCDC)
  else (s.b ^^^ s.c ^^^ s.d, 0xCA62C1D6)

/-- The state after a round. -/
def step (round : Nat) (s : State) (w : UInt32) : State :=
  let (mixed, constant) := mix round s
  ⟨rotate s.a 5 + mixed + s.e + constant + w, s.a, rotate s.b 30, s.c, s.d⟩

/-- The state after rounds from one on. -/
def rounds (round : Nat) (s : State) : List UInt32 → State
  | [] => s
  | w :: ws => rounds (round + 1) (step round s w) ws

/-- The state after a block of sixteen words. -/
def block (s : State) (ws : List UInt32) : State :=
  let t := rounds 0 s (spread 64 ws.reverse).reverse
  ⟨s.a + t.a, s.b + t.b, s.c + t.c, s.d + t.d, s.e + t.e⟩

/-- The state after some blocks. -/
def blocks : (count : Nat) → State → List UInt32 → State
  | 0, s, _ => s
  | count + 1, s, ws => blocks count (block s (ws.take 16)) (ws.drop 16)

/-- A state as bytes. -/
def State.bytes (s : State) : List UInt8 :=
  [s.a, s.b, s.c, s.d, s.e].flatMap fun w => BigEndian.ofNat 4 w.toNat

/-- The digest of a message. -/
def digest (message : List UInt8) : List UInt8 :=
  let ws := words (padded message)
  (blocks (ws.length / 16) initial ws).bytes

/-- The digest has twenty bytes. -/
theorem length_digest (message : List UInt8) : (digest message).length = 20 := rfl

end OAuth.Sha1
