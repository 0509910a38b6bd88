import OAuth.Domain.Punycode
import OAuth.Unicode.Allowed
import OAuth.Unicode.Direction
import OAuth.Unicode.Joining
import OAuth.Unicode.Mapping
import OAuth.Unicode.Mark
import OAuth.Unicode.Normal

/-!
# Domains

A domain is written in ASCII before it is looked up. Its characters are mapped, the result is put
into normal form and cut into labels, and each label that is not ASCII is written in Punycode
behind `xn--`. A label that comes in this form must be one that could have been written so.

`Domain.toAscii?` fails when a label breaks a rule: a character that may not stand in a domain, a
mark at the start, a joiner without a reason, or directions that do not go together.
-/

namespace OAuth.Domain

/-- How an encoded label begins. -/
def encodedMark : Text := "xn--".toList

/-- The longest encoded label that is read. -/
def longestEncoded : Nat := 2000

/-- The longest label that is written in Punycode. -/
def longestDecoded : Nat := 1000

/-- Whether a character is in ASCII. -/
def isAscii (c : Char) : Bool := c.toNat < 0x80

/-- The ASCII characters that have a meaning in a URL, and so no place in a domain. -/
def isForbidden (c : Char) : Bool :=
  c.toNat ≤ 0x20 || c.toNat == 0x7F || "%#/:<>?@[\\]^|".toList.contains c

/-- Whether a character may stand in a label. -/
def isLabelChar (c : Char) : Bool := !isForbidden c && c != '.' && Unicode.isAllowed c

/-- A label. -/
structure Label where
  /-- the characters it stands for -/
  text : Text
  /-- its form in ASCII -/
  ascii : Text
  deriving DecidableEq, Repr

/-- A label that comes in encoded form, from what follows the mark. -/
def readEncoded? (rest : Text) : Option Label :=
  if rest.all isAscii && rest.getLast? ≠ some '-' && rest.length ≤ longestEncoded then
    match Punycode.decode? rest with
    | none | some [] => none
    | some text =>
      if text.all isLabelChar && Unicode.normal text = text then
        some ⟨text, encodedMark ++ rest⟩
      else none
  else none

/-- A label of mapped characters. -/
def readPlain? (text : Text) : Option Label :=
  if !text.all isLabelChar then none
  else if text.all isAscii then some ⟨text, text⟩
  else if text.length ≤ longestDecoded then some ⟨text, encodedMark ++ Punycode.encode text⟩
  else none

/-- A label of mapped characters, in either form. -/
def readLabel? (text : Text) : Option Label :=
  match Text.after? encodedMark text with
  | some rest => readEncoded? rest
  | none => readPlain? text

/-! ## Joiners -/

/-- The combining class of the signs that kill a vowel. -/
def viramaClass : Nat := 9

/-- The character that keeps two letters apart. -/
def nonJoiner : Char := '\u200C'

/-- The character that joins two letters. -/
def joiner : Char := '\u200D'

/-- How the next character joins that does not let a joining pass. -/
def nextJoining (s : Text) : Option Unicode.Joining :=
  ((s.map Unicode.joining?).filter (· ≠ some .transparent)).head?.join

/-- Whether a joiner has a reason: a vowel killed before it, or letters that it keeps apart; the
text before it is given from its end. -/
def mayJoin (before : Text) (c : Char) (after : Text) : Bool :=
  match before with
  | [] => false
  | last :: _ =>
    Unicode.combiningClass last == viramaClass ||
      (c == nonJoiner &&
        [some .left, some .dual].contains (nextJoining before) &&
        [some .right, some .dual].contains (nextJoining after))

/-- Whether each joiner has a reason, after some text given from its end. -/
def joinersFrom (before : Text) : Text → Bool
  | [] => true
  | c :: rest =>
    ((c != nonJoiner && c != joiner) || mayJoin before c rest) && joinersFrom (c :: before) rest

/-! ## Directions -/

/-- Whether a direction makes its domain one of mixed directions. -/
def isRightToLeft (d : Unicode.Direction) : Bool :=
  [.right, .arabic, .arabicNumber].contains d

/-- Whether the directions of a label go together. -/
def directionsAgree (ds : List Unicode.Direction) : Bool :=
  let last := (ds.reverse.dropWhile (· == .mark)).head?
  match ds with
  | [] => true
  | .left :: _ =>
    ds.all [.left, .number, .neutral, .mark].contains && [some .left, some .number].contains last
  | .right :: _ | .arabic :: _ =>
    ds.all [.right, .arabic, .arabicNumber, .number, .neutral, .mark].contains &&
      [some .right, some .arabic, some .number, some .arabicNumber].contains last &&
      !(ds.contains .number && ds.contains .arabicNumber)
  | _ => false

/-! ## Writing -/

/-- Whether a label keeps the rules on its start and its joiners. -/
def Label.isSound (label : Label) : Bool :=
  !(label.text.head?.map Unicode.isMark).getD false && joinersFrom [] label.text

/-- The labels of a domain; none if one of them breaks a rule. -/
def labels? (domain : Text) : Option (List Label) :=
  let mapped := Unicode.normal (domain.flatMap Unicode.mapChar)
  match (Text.pieces '.' mapped).mapM readLabel? with
  | none => none
  | some labels =>
    let directions := labels.map fun label => label.text.map Unicode.direction
    if labels.all Label.isSound &&
        (!directions.any (·.any isRightToLeft) || directions.all directionsAgree) then
      some labels
    else none

/-- A domain in ASCII. -/
def toAscii? (domain : Text) : Option Text :=
  (labels? domain).map fun labels => Text.join ['.'] (labels.map Label.ascii)

end OAuth.Domain
