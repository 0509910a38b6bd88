import OAuth.Url.Ipv4

/-!
# IPv6 addresses

An address is eight groups of up to four hexadecimal digits between colons. Groups of zero in one
place may be left out for `::`, and the last two groups may be written as an IPv4 address of four
decimal bytes. It is written with the first of the longest runs of zero left out.
-/

namespace OAuth.Url

/-- An address of eight groups. -/
structure Ipv6 where
  /-- the groups, each of sixteen bits -/
  groups : List Nat
  deriving DecidableEq, Repr

namespace Ipv6

/-- A group of one to four digits. -/
def group? (s : Text) : Option Nat :=
  if s.isEmpty || 4 < s.length then none else Ipv4.number? 16 s

/-- A byte in decimal digits, without zeros before it. -/
def byte? (s : Text) : Option Nat :=
  if s.isEmpty || 3 < s.length || (1 < s.length && s.head? = some '0') then none
  else (Ipv4.number? 10 s).filter (· < 256)

/-- The two groups of four bytes between dots. -/
def dotted? (s : Text) : Option (List Nat) :=
  match (Text.pieces '.' s).mapM byte? with
  | some [a, b, c, d] => some [a * 256 + b, c * 256 + d]
  | _ => none

/-- The groups of a part between colons; only the last one may be dotted, and only at the end of
the address. -/
def groups? (atEnd : Bool) : List Text → Option (List Nat)
  | [] => some []
  | [last] => if atEnd && last.contains '.' then dotted? last else (group? last).map ([·])
  | s :: rest =>
    match group? s, groups? atEnd rest with
    | some g, some gs => some (g :: gs)
    | _, _ => none

/-- The groups of the text on one side of `::`, which may be empty. -/
def side? (atEnd : Bool) (s : Text) : Option (List Nat) :=
  if s.isEmpty then some [] else groups? atEnd (Text.pieces ':' s)

/-- The text before and after the first `::`. -/
def cutGap? : Text → Option (Text × Text)
  | ':' :: ':' :: rest => some ([], rest)
  | c :: rest => (cutGap? rest).map fun (front, back) => (c :: front, back)
  | [] => none

/-- The address that a text between brackets spells. -/
def ofText? (s : Text) : Option Ipv6 :=
  match cutGap? s with
  | some (front, back) =>
    match side? false front, side? true back with
    | some front, some back =>
      let given := front.length + back.length
      if given < 8 then some ⟨front ++ List.replicate (8 - given) 0 ++ back⟩ else none
    | _, _ => none
  | none =>
    match groups? true (Text.pieces ':' s) with
    | some groups => if groups.length = 8 then some ⟨groups⟩ else none
    | none => none

/-- The number of zeros at the start. -/
def zeroRun (groups : List Nat) : Nat := (groups.takeWhile (· == 0)).length

/-- The start and the length of the first of the longest runs of zero, counted from a place. -/
def longestRun (place : Nat) : List Nat → Nat × Nat
  | [] => (place, 0)
  | g :: rest =>
    let here := zeroRun (g :: rest)
    let (start, length) := longestRun (place + 1) rest
    if length ≤ here then (place, here) else (start, length)

/-- Groups between colons. -/
def joined (groups : List Nat) : Text := Text.join [':'] (groups.map Hex.ofNat)

/-- An address in its shortest form. -/
def toText (address : Ipv6) : Text :=
  let (start, length) := longestRun 0 address.groups
  if 2 ≤ length then
    joined (address.groups.take start) ++ [':', ':'] ++
      joined (address.groups.drop (start + length))
  else joined address.groups

end Ipv6

end OAuth.Url
