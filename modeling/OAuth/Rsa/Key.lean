import OAuth.Der
import OAuth.Pem
import OAuth.Rsa
import OAuth.Text.Blank

/-!
# Reading private keys

A secret is a private key in Base64, or a document in text form. The key stands in a frame that
names the algorithm; a document may also hold it bare. `Rsa.PrivateKey.ofSecret` tells what is
wrong with a secret that is none.
-/

namespace OAuth.Rsa

namespace PrivateKey

/-- Whether an element has a meaning of its own, and one element in it. -/
def isExtension (element : Der.Element) : Bool :=
  element.tag &&& 0xE0 == 0xA0 && ((Der.readAll? element.content).map List.length) == some 1

/-- Whether the content of a string of bits holds whole bytes. -/
def isWholeBytes : List UInt8 → Bool
  | [] => false
  | unused :: _ => unused == 0

/-- Whether the elements behind a key fit its version, which says whether a public key is among
them; attributes come before it, and extensions behind it. -/
def fitsVersion (version : Nat) : List Der.Element → Bool
  | [] => version == 0
  | element :: rest =>
    if element.tag &&& 0xDF == 0x80 then fitsVersion version rest
    else if element.tag &&& 0xDF == 0x81 then
      element.tag == 0x81 && isWholeBytes element.content && version == 1 && rest.all isExtension
    else version == 0 && (element :: rest).all isExtension

/-- The content of the element that names the algorithm. -/
def algorithm : List UInt8 :=
  [0x06, 0x09, 0x2A, 0x86, 0x48, 0x86, 0xF7, 0x0D, 0x01, 0x01, 0x01, 0x05, 0x00]

/-- The key that stands bare in some bytes. -/
def ofBare? (bytes : List UInt8) : Option PrivateKey := do
  let content ← Der.readOnly? 0x30 bytes
  match Der.readNumbers? 9 content with
  | some ([0, modulus, publicExponent, privateExponent, p, q, _, _, _], []) =>
    let key : PrivateKey := ⟨modulus, publicExponent, privateExponent, p, q⟩
    if key.isSound then some key else none
  | _ => none

/-- The key that stands in a frame in some bytes. -/
def ofFramed? (bytes : List UInt8) : Option PrivateKey := do
  let (version, rest) ← Der.readNumber? (← Der.readOnly? 0x30 bytes)
  let (named, rest) ← Der.readTagged? 0x30 rest
  let (held, rest) ← Der.readTagged? 0x04 rest
  let others ← Der.readAll? rest
  if named = algorithm ∧ fitsVersion version others = true then ofBare? held else none

/-- What a document with a framed key says it holds. -/
def framedLabel : Text := "PRIVATE KEY".toList

/-- What a document with a bare key says it holds. -/
def bareLabel : Text := "RSA PRIVATE KEY".toList

/-- How a document begins, as far as that tells it from a key in Base64. -/
def documentStart : Text := "-----BEGIN".toList

/-- Why a secret is no private key. -/
inductive Fault where
  /-- it is not Base64 -/
  | base64 (fault : Base64.Fault)
  /-- it does not hold a key -/
  | unusable
  deriving DecidableEq, Repr

/-- The key in a document. -/
def ofDocument? (s : Text) : Option PrivateKey :=
  match (Pem.decode? framedLabel s).bind ofFramed? with
  | some key => some key
  | none => (Pem.decode? bareLabel s).bind ofBare?

/-- The key in Base64; blanks do not count. -/
def ofBase64 (s : Text) : Except Fault PrivateKey :=
  match Base64.decode (s.filter fun c => !Text.isAsciiBlank c) with
  | .error fault => .error (.base64 fault)
  | .ok bytes =>
    match ofFramed? bytes with
    | some key => .ok key
    | none => .error .unusable

/-- The key of a secret. -/
def ofSecret (secret : Text) : Except Fault PrivateKey :=
  let secret := Text.trim secret
  if documentStart.isPrefixOf secret then
    match ofDocument? secret with
    | some key => .ok key
    | none => .error .unusable
  else ofBase64 secret

end PrivateKey

end OAuth.Rsa
