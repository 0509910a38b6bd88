import OAuth.BigEndian
import OAuth.Digest.Sha1
import OAuth.Text

/-!
# RSA

A key is a modulus with its two factors, and two exponents that undo each other. A message is
signed by raising a block that holds its digest to the private exponent. `Rsa.PrivateKey.sign`
does not give out a signature that the public exponent does not undo.
-/

namespace OAuth.Rsa

/-- A power, modulo a number. -/
def powMod (base exponent modulus : Nat) : Nat :=
  if exponent = 0 then 1 % modulus
  else
    let half := powMod (base * base % modulus) (exponent / 2) modulus
    if exponent % 2 = 1 then base * half % modulus else half
termination_by exponent

/-- **A power, modulo a number, is the power with the multiples left out.** -/
theorem powMod_eq (base exponent modulus : Nat) :
    powMod base exponent modulus = Nat.pow base exponent % modulus := by
  rw [Nat.pow_eq]
  induction exponent using Nat.strongRecOn generalizing base with
  | ind exponent ih =>
    rw [powMod]
    split
    · next h => simp [h]
    · next h =>
      have hhalf := ih (exponent / 2) (by omega) (base * base % modulus)
      have hsquare : (base * base % modulus) ^ (exponent / 2) % modulus =
          base ^ (2 * (exponent / 2)) % modulus := by
        rw [← Nat.pow_mod, ← Nat.pow_two, ← Nat.pow_mul]
      simp only [hhalf, hsquare]
      split
      · next hodd =>
        rw [Nat.mul_mod_mod, Nat.mul_comm, ← Nat.pow_succ]
        congr 2
        omega
      · next heven =>
        congr 2
        omega

/-- The factors of Euclid's algorithm: the greatest common divisor of two numbers, and how often
the first one goes into it, modulo the second. -/
def euclid (a b : Nat) (x y : Int) : Nat × Int :=
  if b = 0 then (a, x) else euclid b (a % b) y (x - (a / b : Nat) * y)
termination_by b
decreasing_by exact Nat.mod_lt _ (by omega)

/-- The inverse of a number modulo another, if they have no factor in common. -/
def inverse? (a modulus : Nat) : Option Nat :=
  match euclid (a % modulus) modulus 1 0 with
  | (1, x) => some (x % modulus).toNat
  | _ => none

/-- A private key. -/
structure PrivateKey where
  /-- the product of the factors -/
  modulus : Nat
  /-- the exponent that is told -/
  publicExponent : Nat
  /-- the exponent that is kept -/
  privateExponent : Nat
  /-- the first factor -/
  p : Nat
  /-- the second factor -/
  q : Nat
  deriving DecidableEq, Repr

namespace PrivateKey

/-- The most bits that a modulus may have. -/
def mostBits : Nat := 4096

/-- The greatest public exponent. -/
def greatestExponent : Nat := 0x1FFFFFFFF

/-- Whether the numbers of a key are of the right size and belong together. -/
def isSound (key : PrivateKey) : Bool :=
  decide (Nat.log2 key.modulus < mostBits) && key.modulus % 2 == 1 &&
    decide (key.publicExponent < key.modulus) && key.publicExponent % 2 == 1 &&
    decide (2 ≤ key.publicExponent) && decide (key.publicExponent ≤ greatestExponent) &&
    decide (1 < key.p) && decide (1 < key.q) && key.p * key.q == key.modulus &&
    key.publicExponent * key.privateExponent % (key.p - 1) == 1 % (key.p - 1) &&
    key.publicExponent * key.privateExponent % (key.q - 1) == 1 % (key.q - 1)

/-- The number of bytes of the modulus. -/
def size (key : PrivateKey) : Nat := if key.modulus = 0 then 0 else Nat.log2 key.modulus / 8 + 1

/-- A number raised to the private exponent: modulo each factor, and then put together. -/
def raise (key : PrivateKey) (c : Nat) : Nat :=
  match inverse? key.q key.p with
  | some inverse =>
    let m₁ := powMod c (key.privateExponent % (key.p - 1)) key.p
    let m₂ := powMod c (key.privateExponent % (key.q - 1)) key.q
    let h := ((m₁ : Int) - m₂) % key.p * inverse % key.p
    h.toNat * key.q + m₂
  | none => powMod c key.privateExponent key.modulus

end PrivateKey

/-- Why a message was not signed. -/
inductive Fault where
  /-- the modulus is too short for the block -/
  | messageTooLong
  /-- the public exponent does not undo the signature -/
  | selfCheck
  deriving DecidableEq, Repr

/-- A fault in words. -/
def Fault.message : Fault → Text
  | .messageTooLong => "message too long".toList
  | .selfCheck => "internal error".toList

/-- The bytes that say which digest a block holds. -/
def digestName : List UInt8 :=
  [0x30, 0x21, 0x30, 0x09, 0x06, 0x05, 0x2B, 0x0E, 0x03, 0x02, 0x1A, 0x05, 0x00, 0x04, 0x14]

/-- A block of some bytes that holds the digest of a message. -/
def block? (size : Nat) (message : List UInt8) : Option (List UInt8) :=
  let held := digestName ++ Sha1.digest message
  if size < held.length + 11 then none
  else some (0x00 :: 0x01 :: List.replicate (size - held.length - 3) 0xFF ++ 0x00 :: held)

/-- The signature of a message. -/
def PrivateKey.sign (key : PrivateKey) (message : List UInt8) : Except Fault (List UInt8) :=
  match block? key.size message with
  | none => .error .messageTooLong
  | some block =>
    let c := BigEndian.toNat block
    let m := key.raise c
    if powMod m key.publicExponent key.modulus = c then .ok (BigEndian.ofNat key.size m)
    else .error .selfCheck

end OAuth.Rsa
