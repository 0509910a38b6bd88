import OAuth.Text.Utf8

/-!
# Base64

Three bytes are written as four symbols of six bits; one or two bytes at the end are filled up
with `=`. Reading is strict: only the written form of some bytes is read, and of a text that is
none the first fault is told, with its place.
-/

namespace OAuth.Base64

/-- Why a text is not the written form of any bytes. -/
inductive Fault where
  /-- a byte that is no symbol, or a `=` before the end -/
  | symbol (byte : UInt8) (offset : Nat)
  /-- the symbols end with one that stands alone; they are this many -/
  | loneSymbol (count : Nat)
  /-- the last symbol has bits that belong to no byte -/
  | lastSymbol (byte : UInt8) (offset : Nat)
  /-- the end is not filled up to four -/
  | padding
  deriving DecidableEq, Repr

/-- A fault in words. -/
def Fault.message : Fault → Text
  | .symbol byte offset =>
    "Invalid symbol ".toList ++ Text.decimal byte.toNat ++ ", offset ".toList ++
      Text.decimal offset ++ ['.']
  | .loneSymbol count => "Invalid input length: ".toList ++ Text.decimal count
  | .lastSymbol byte offset =>
    "Invalid last symbol ".toList ++ Text.decimal byte.toNat ++ ", offset ".toList ++
      Text.decimal offset ++ ['.']
  | .padding => "Invalid padding".toList

/-- The symbols, each at the place of its value. -/
def alphabet : Text :=
  "ABCDEFGHIJKLMNOPQRSTUVWXYZabcdefghijklmnopqrstuvwxyz0123456789+/".toList

/-- The symbol of a value below 64. -/
def symbol (value : Nat) : Char := alphabet.getD value 'A'

/-- The value of a symbol. -/
def value? (byte : UInt8) : Option Nat := alphabet.findIdx? fun c => c.toNat == byte.toNat

/-- The byte that fills up the end. -/
def pad : UInt8 := 61

/-- The text of bytes. -/
def encode : List UInt8 → Text
  | [] => []
  | [a] => [symbol (a.toNat / 4), symbol (a.toNat % 4 * 16), '=', '=']
  | [a, b] =>
    [symbol (a.toNat / 4), symbol (a.toNat % 4 * 16 + b.toNat / 16), symbol (b.toNat % 16 * 4), '=']
  | a :: b :: c :: rest =>
    symbol (a.toNat / 4) :: symbol (a.toNat % 4 * 16 + b.toNat / 16) ::
      symbol (b.toNat % 16 * 4 + c.toNat / 64) :: symbol (c.toNat % 64) :: encode rest

/-! ## Reading -/

/-- The value of the symbol at a place. -/
def valueAt (offset : Nat) (byte : UInt8) : Except Fault Nat :=
  match value? byte with
  | some value => .ok value
  | none => .error (.symbol byte offset)

/-- The three bytes of four values. -/
def threeBytes (a b c d : Nat) : List UInt8 :=
  [UInt8.ofNat (a * 4 + b / 16), UInt8.ofNat (b % 16 * 16 + c / 4), UInt8.ofNat (c % 4 * 64 + d)]

/-- The values of the symbols of the last four, and the number of `=` behind them; `start` is the
place of the first, and `symbols` the number already read. -/
def readLast (start symbols : Nat) : List UInt8 → Except Fault (List Nat × Nat)
  | [] => .ok ([], 0)
  | byte :: rest =>
    if byte = pad then
      if symbols < 2 then .error (.symbol pad (start + symbols))
      else if rest.all (· == pad) then .ok ([], rest.length + 1)
      else .error (.symbol pad (start + symbols))
    else do
      let value ← valueAt (start + symbols) byte
      let (values, pads) ← readLast start (symbols + 1) rest
      return (value :: values, pads)

/-- The bytes of the last four, or fewer, symbols. -/
def decodeLast (start : Nat) (bytes : List UInt8) : Except Fault (List UInt8) := do
  let (values, pads) ← readLast start 0 bytes
  let complete (found : List UInt8) (extraBits : Nat) : Except Fault (List UInt8) :=
    if extraBits = 0 then .ok found
    else .error (.lastSymbol (bytes.getD found.length pad) (start + found.length))
  match values with
  | [] => .ok []
  | [_] => .error (.loneSymbol (start + 1))
  | values =>
    if (values.length + pads) % 4 ≠ 0 then .error .padding
    else
      match values with
      | [a, b] => complete [UInt8.ofNat (a * 4 + b / 16)] (b % 16)
      | [a, b, c] =>
        complete [UInt8.ofNat (a * 4 + b / 16), UInt8.ofNat (b % 16 * 16 + c / 4)] (c % 4)
      | [a, b, c, d] => .ok (threeBytes a b c d)
      | _ => .ok []

/-- The bytes of symbols from a place on, four at a time. -/
def decodeFrom (start : Nat) : List UInt8 → Except Fault (List UInt8)
  | a :: b :: c :: d :: e :: rest => do
    let va ← valueAt start a
    let vb ← valueAt (start + 1) b
    let vc ← valueAt (start + 2) c
    let vd ← valueAt (start + 3) d
    let more ← decodeFrom (start + 4) (e :: rest)
    return threeBytes va vb vc vd ++ more
  | last => decodeLast start last

/-- The byte at the end, where it stands alone and is neither a symbol nor a `=`. -/
def strayEnd? (bytes : List UInt8) : Option UInt8 :=
  if bytes.length % 4 = 1 then
    bytes.getLast?.filter fun byte => byte != pad && (value? byte).isNone
  else none

/-- The bytes that the UTF-8 form of a text spells; a stray byte at the end is told first. -/
def decodeBytes (bytes : List UInt8) : Except Fault (List UInt8) :=
  match strayEnd? bytes with
  | some byte => .error (.symbol byte (bytes.length - 1))
  | none => decodeFrom 0 bytes

/-- The bytes that a text spells. -/
def decode (s : Text) : Except Fault (List UInt8) := decodeBytes (Utf8.encode s)

end OAuth.Base64
