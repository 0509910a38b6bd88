import OAuth.Url.Host

/-!
# Paths

A path from the root is a list of segments. While it is read, a segment `.` is left out and a
segment `..` takes back the one before it, which is not done to a drive letter. A path of a file
may begin with a drive letter, and then has no host.
-/

namespace OAuth.Url

/-- Where on a server something is. -/
inductive Path where
  /-- segments, with a stroke before each of them -/
  | rooted (segments : List Text)
  /-- a text that has no segments -/
  | rootless (text : Text)
  deriving DecidableEq, Repr

namespace Path

/-- A path in its written form. -/
def toText : Path → Text
  | .rooted segments => segments.flatMap fun segment => '/' :: segment
  | .rootless text => text

/-- The characters that stay as they are in a segment. -/
def isPlain (c : Char) : Bool := Host.isPlain c && !" \"#<>?`\x7b\x7d".toList.contains c

/-- Whether a segment stands for the place it is in: a dot, or its escape. -/
def isHere (segment : Text) : Bool :=
  [".".toList, "%2e".toList].contains (Text.toLower segment)

/-- Whether a segment stands for the place above: two dots, or their escapes. -/
def isAbove (segment : Text) : Bool :=
  ["..".toList, ".%2e".toList, "%2e.".toList, "%2e%2e".toList].contains (Text.toLower segment)

/-- Whether a segment is a letter and a colon, or a stroke in its place. -/
def isDrive : Text → Bool
  | [letter, mark] => letter.isAlpha && (mark == ':' || mark == '|')
  | _ => false

/-- Whether a segment stays where a segment `..` follows. -/
def isFixed (segment : Text) : Bool := isDrive (Text.upTo '\\' segment)

/-- The segments without the last one, unless that stays; they are given from the end. -/
def leave : List Text → List Text
  | [] => []
  | last :: front => if isFixed last then last :: front else front

/-- Segments put behind others, which are given from the end. -/
def resolveFrom (front : List Text) : List Text → List Text
  | [] => front.reverse
  | segment :: rest =>
    let isLast := rest.isEmpty
    if isAbove segment then
      resolveFrom (if isLast then [] :: leave front else leave front) rest
    else if isHere segment then resolveFrom (if isLast then [] :: front else front) rest
    else resolveFrom (Percent.escape isPlain segment :: front) rest

/-- The segments of a path once the dots in it are followed. -/
def resolve (segments : List Text) : List Text := resolveFrom [] segments

/-- The segments of a text, at strokes and, under a scheme of the web, at backslashes too. -/
def segments (isWeb : Bool) (s : Text) : List Text :=
  Text.pieces '/' (if isWeb then s.map fun c => if c = '\\' then '/' else c else s)

/-- A text without the stroke at its start. -/
def afterRoot (isWeb : Bool) : Text → Text
  | '/' :: rest => rest
  | '\\' :: rest => if isWeb then rest else '\\' :: rest
  | s => s

/-- The path of a text under a scheme of the web, which begins at the root. -/
def ofWeb (s : Text) : Path := .rooted (resolve (segments true (afterRoot true s)))

/-- The path of a text behind an authority under any other scheme. -/
def ofOther : Text → Path
  | [] => .rooted []
  | s => .rooted (resolve (segments false (afterRoot false s)))

/-- The path of a text without an authority under any other scheme. -/
def ofBare : Text → Path
  | '/' :: rest => .rooted (resolve (segments false rest))
  | s => .rootless (Percent.escape Host.isPlain s)

/-! ## Files -/

/-- Segments without the empty ones in front, of which one is left if there are no others. -/
def trim (segments : List Text) : List Text :=
  match segments.dropWhile List.isEmpty with
  | [] => [[]]
  | found => found

/-- The path of a text under the scheme of files, and whether a drive letter takes the place of a
host. -/
def ofFile (s : Text) : Path × Bool :=
  match resolve (segments true (afterRoot true s)) with
  | [] => (.rooted [[]], false)
  | first :: rest =>
    if isDrive first then (.rooted ([first.headD 'C', ':'] :: rest), true)
    else (.rooted (trim (first :: rest)), false)

end Path

end OAuth.Url
