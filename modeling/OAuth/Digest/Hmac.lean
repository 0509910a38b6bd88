import OAuth.Digest.Sha1

/-!
# Keyed digests

A digest of a message that only the owner of a key can make: the key is worked into the message
twice, before it and around the digest of that.
-/

namespace OAuth.Hmac

/-- The number of bytes that a key is filled up to. -/
def blockLength : Nat := 64

/-- A key of one block: a long key is digested, and a short one filled up with zeros. -/
def blockKey (key : List UInt8) : List UInt8 :=
  let key := if blockLength < key.length then Sha1.digest key else key
  key ++ List.replicate (blockLength - key.length) 0

/-- The keyed digest of a message. -/
def sha1 (key message : List UInt8) : List UInt8 :=
  let key := blockKey key
  Sha1.digest (key.map (· ^^^ 0x5C) ++ Sha1.digest (key.map (· ^^^ 0x36) ++ message))

theorem length_sha1 (key message : List UInt8) : (sha1 key message).length = 20 :=
  Sha1.length_digest _

end OAuth.Hmac
