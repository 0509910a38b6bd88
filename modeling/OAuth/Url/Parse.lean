import OAuth.Reference
import OAuth.Url

/-!
# Reading URLs

Blanks and controls around a text, and tabs and line ends in it, do not count. What is read first
is the scheme, then what follows `#` and `?`; the rest is an authority and a path. `Url.parse`
says what is wrong with a text that is no URL; of two faults the one that stands first counts.
-/

namespace OAuth.Url

/-! ## Parts -/

/-- A text without controls and blanks around it, and without tabs and line ends. -/
def tidy (s : Text) : Text :=
  let isOuter := fun c : Char => decide (c.toNat ≤ 0x20)
  (((s.dropWhile isOuter).reverse.dropWhile isOuter).reverse).filter
    fun c => !(c == '\t' || c == '\n' || c == '\r')

/-- Whether a character may stand in a scheme, behind the first letter. -/
def isSchemeChar (c : Char) : Bool := c.isAlphanum || c == '+' || c == '-' || c == '.'

/-- The scheme of a text, and what follows its colon. -/
def cutScheme? (s : Text) : Option (Text × Text) :=
  match Text.cut? ':' s with
  | some (letter :: more, rest) =>
    if letter.isAlpha && more.all isSchemeChar then some (Text.toLower (letter :: more), rest)
    else none
  | _ => none

/-- The schemes of the web, each with its port. -/
def webPorts : List (Text × Nat) :=
  [("http".toList, 80), ("https".toList, 443), ("ws".toList, 80), ("wss".toList, 443),
    ("ftp".toList, 21)]

/-- The scheme of files. -/
def fileScheme : Text := "file".toList

/-- The characters that stay as they are in credentials. -/
def isPlainCredential (c : Char) : Bool :=
  Path.isPlain c && !"/:;=@[\\]^|".toList.contains c

/-- The characters that stay as they are in a query. -/
def isPlainQuery (isWeb : Bool) (c : Char) : Bool :=
  Host.isPlain c && !" \"#<>".toList.contains c && !(isWeb && c == '\'')

/-- The characters that stay as they are in a fragment. -/
def isPlainFragment (c : Char) : Bool := Host.isPlain c && !" \"<>`".toList.contains c

/-! ## Authorities -/

/-- The text before and after the last separator. -/
def cutLast? (sep : Char) (s : Text) : Option (Text × Text) :=
  (Text.cut? sep s.reverse).map fun (back, front) => (front.reverse, back.reverse)

/-- The name and the password of credentials; an empty password is none. -/
def credentials (s : Text) : Text × Option Text :=
  let escape := Percent.escape isPlainCredential
  match Text.cut? ':' s with
  | some (name, []) => (escape name, none)
  | some (name, password) => (escape name, some (escape password))
  | none => (escape s, none)

/-- The text before the first colon that is not in brackets, and the text from there on. -/
def cutHost (inBrackets : Bool) : Text → Text × Text
  | [] => ([], [])
  | c :: rest =>
    if c = ':' ∧ inBrackets = false then ([], c :: rest)
    else
      let (host, port) := cutHost (c = '[' || (inBrackets && c ≠ ']')) rest
      (c :: host, port)

/-- The port of the text behind a host, and what follows it from a backslash on. -/
def readPort (standard : Option Nat) : Text → Except Fault (Option Nat × Text)
  | [] => .ok (none, [])
  | _ :: s =>
    let digits := s.takeWhile Char.isDigit
    let rest := s.dropWhile Char.isDigit
    let port := digits.foldl (fun n c => n * 10 + (c.toNat - '0'.toNat)) 0
    if 65535 < port then .error .invalidPort
    else if !rest.isEmpty && rest.head? ≠ some '\\' then .error .invalidPort
    else if digits.isEmpty || some port = standard then .ok (none, rest)
    else .ok (some port, rest)

/-- An authority of the web. -/
def readWebAuthority (port : Nat) (s : Text) : Except Fault Authority := do
  let (who, whom) := (cutLast? '@' s).getD ([], s)
  let (username, password) := credentials who
  let (hostPart, portPart) := cutHost false whom
  let host ← Host.ofWeb hostPart
  let (port, _) ← readPort (some port) portPart
  return { username, password, host := some host, port }

/-- An authority of any other scheme, and what follows its port from a backslash on; `hasMore`
says whether anything follows the authority. -/
def readOtherAuthority (s : Text) (hasMore : Bool) : Except Fault (Authority × Text) := do
  if hasMore && s = ['@'] then throw .emptyHost
  let (who, whom) := (cutLast? '@' s).getD ([], s)
  let (username, password) := credentials who
  let (hostPart, portPart) := cutHost false whom
  let host ← Host.ofOther hostPart
  if host.isNone && !portPart.isEmpty then throw .emptyHost
  let (port, rest) ← readPort none portPart
  let authority : Authority := { username, password, host, port }
  if host.isNone && authority.hasCredentials then throw .emptyHost
  return (authority, rest)

/-! ## Hierarchies

What stands between the scheme and the query. -/

/-- Whether a character is a stroke or a backslash. -/
def isStroke (c : Char) : Bool := c == '/' || c == '\\'

/-- The authority and the path of a text under a scheme of the web. -/
def readWeb (port : Nat) (s : Text) : Except Fault (Option Authority × Path) := do
  let s := s.dropWhile isStroke
  let authority ← readWebAuthority port (s.takeWhile (!isStroke ·))
  return (some authority, Path.ofWeb (s.dropWhile (!isStroke ·)))

/-- The authority and the path of a text under any other scheme. -/
def readOther (s : Text) (hasMore : Bool) : Except Fault (Option Authority × Path) :=
  match s with
  | '/' :: '/' :: s => do
    let path := s.dropWhile (· ≠ '/')
    let (authority, rest) ←
      readOtherAuthority (s.takeWhile (· ≠ '/')) (hasMore || !path.isEmpty)
    return (some authority, Path.ofOther (rest ++ path))
  | s => .ok (none, Path.ofBare s)

/-- The name of the server that a file is asked for on. -/
def localHost : Host := .domain "localhost".toList

/-- The host of a file; the server it is asked for on is none. -/
def readFileHost (s : Text) : Except Fault (Option Host) :=
  if s.isEmpty then .ok none
  else do
    let host ← Host.ofWeb s
    return if host = localHost then none else some host

/-- The authority and the path of a text under the scheme of files. -/
def readFile (s : Text) : Except Fault (Option Authority × Path) := do
  let nobody : Authority := { username := [], password := none, host := none, port := none }
  match s with
  | a :: b :: s =>
    let name := s.takeWhile (!isStroke ·)
    if isStroke a && isStroke b && !Path.isDrive name then
      let host ← readFileHost name
      let (path, hasDrive) := Path.ofFile (s.dropWhile (!isStroke ·))
      return (some { nobody with host := if hasDrive then none else host }, path)
    else if isStroke a && isStroke b then return (some nobody, (Path.ofFile s).1)
    else return (some nobody, (Path.ofFile (a :: b :: s)).1)
  | s => return (some nobody, (Path.ofFile s).1)

/-! ## URLs -/

/-- The URL of a text, or what is wrong with it. -/
def parse (s : Text) : Except Fault Url :=
  match cutScheme? (tidy s) with
  | none => .error .noScheme
  | some (scheme, rest) => do
    let r := Reference.ofText rest
    let port := webPorts.lookup scheme
    let isWeb := port.isSome || scheme == fileScheme
    let (authority, path) ← match port with
      | some port => readWeb port r.base
      | none =>
        if scheme = fileScheme then readFile r.base
        else readOther r.base (r.query.isSome || r.fragment.isSome)
    return {
      scheme, authority, path
      query := r.query.map (Percent.escape (isPlainQuery isWeb))
      fragment := r.fragment.map (Percent.escape isPlainFragment) }

end OAuth.Url
