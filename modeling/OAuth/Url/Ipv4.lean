import OAuth.Text.Hex

/-!
# IPv4 addresses

An address is read from one to four numbers, each decimal, octal behind a `0`, or hexadecimal
behind `0x`; the last number fills the bytes that are left. It is written as four bytes.
-/

namespace OAuth.Url

/-- An address of four bytes. -/
structure Ipv4 where
  /-- the bytes as one number -/
  value : Nat
  /-- it fits into four bytes -/
  value_lt : value < UInt32.size
  deriving DecidableEq, Repr

namespace Ipv4

/-- An address as four bytes between dots. -/
def toText (address : Ipv4) : Text :=
  Text.join ['.'] ([24, 16, 8, 0].map fun shift => Text.decimal (address.value >>> shift % 256))

/-- The number that digits of a radix spell. -/
def number? (radix : Nat) (digits : Text) : Option Nat :=
  digits.foldl
    (fun n c =>
      match n, Hex.value? c with
      | some n, some d => if d < radix then some (n * radix + d) else none
      | _, _ => none)
    (some 0)

/-- A part of an address; a bare `0x` is zero. -/
def part? : Text → Option Nat
  | [] => none
  | '0' :: 'x' :: digits | '0' :: 'X' :: digits => number? 16 digits
  | '0' :: d :: digits => number? 8 (d :: digits)
  | digits => number? 10 digits

/-- The parts of a host, without an empty one at the end. -/
def parts (host : Text) : List Text :=
  match (Text.pieces '.' host).reverse with
  | [] :: rest => rest.reverse
  | parts => parts.reverse

/-- Whether a host is to be read as an address: its last part is a number, or digits throughout. -/
def endsInNumber (host : Text) : Bool :=
  match (parts host).getLast? with
  | none | some [] => false
  | some last => last.all Char.isDigit || (part? last).isSome

/-- The address that numbers make up. -/
def ofParts? (front : List Nat) (last : Nat) : Option Ipv4 :=
  let left := 8 * (4 - front.length)
  let value := front.foldl (fun n b => n * 256 + b) 0 <<< left + last
  if front.all (· < 256) && last < 1 <<< left then
    if h : value < UInt32.size then some ⟨value, h⟩ else none
  else none

/-- The address that a host spells. -/
def ofText? (host : Text) : Option Ipv4 :=
  match (parts host).mapM part? with
  | none => none
  | some numbers =>
    match numbers.reverse with
    | [] => none
    | last :: front => if front.length < 4 then ofParts? front.reverse last else none

end Ipv4

end OAuth.Url
