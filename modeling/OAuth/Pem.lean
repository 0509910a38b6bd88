import OAuth.Base64

/-!
# Documents in text form

Bytes in Base64, in lines of 64 symbols, between a line that begins a document and one that ends
it. Both lines name what the document holds. Nothing else may stand between them or behind them;
before them there may be other lines.
-/

namespace OAuth.Pem

/-- How the line that begins a document starts. -/
def beginning : Text := "-----BEGIN ".toList

/-- How the line that ends a document starts. -/
def ending : Text := "-----END ".toList

/-- How both lines end. -/
def dashes : Text := "-----".toList

/-- The number of symbols in a full line. -/
def lineLength : Nat := 64

/-- The text after the end of a line. -/
def afterLineEnd? : Text → Option Text
  | '\r' :: '\n' :: rest => some rest
  | '\n' :: rest => some rest
  | '\r' :: rest => some rest
  | _ => none

/-- The text before the end of a line. -/
def beforeLineEnd? (s : Text) : Option Text :=
  match s.reverse with
  | '\n' :: '\r' :: rest => some rest.reverse
  | '\n' :: rest => some rest.reverse
  | '\r' :: rest => some rest.reverse
  | _ => none

/-- The text after the beginning of a document that starts some line after the first. -/
def laterBeginning? : Text → Option Text
  | [] => none
  | c :: rest =>
    match if c = '\n' then Text.after? beginning rest else none with
    | some found => some found
    | none => if c = '\x00' then none else laterBeginning? rest

/-- The text after the beginning of a document. -/
def afterBeginning? (s : Text) : Option Text :=
  match Text.after? beginning s with
  | some rest => some rest
  | none => laterBeginning? s

/-- The lines of a document that holds what a label says. -/
def body? (label s : Text) : Option Text := do
  let afterLabel ← Text.after? (label ++ dashes) (← afterBeginning? s)
  let rest ← afterLineEnd? afterLabel
  let lines ← Text.before? (ending ++ label ++ dashes) ((beforeLineEnd? rest).getD rest)
  beforeLineEnd? lines

/-- The symbols of lines, when the first of them has `left` places left; a line that is not full
is the last. -/
def symbols? : (left : Nat) → Text → Option Text
  | _, [] => some []
  | left + 1, c :: rest => (symbols? left rest).map (c :: ·)
  | 0, '\r' :: '\n' :: rest => symbols? lineLength rest
  | 0, '\n' :: rest => symbols? lineLength rest
  | 0, '\r' :: rest => symbols? lineLength rest
  | 0, _ :: _ => none

/-- The bytes of a document that holds what a label says. -/
def decode? (label s : Text) : Option (List UInt8) := do
  let symbols ← symbols? lineLength (← body? label s)
  match symbols, Base64.decode symbols with
  | [], _ => none
  | _, .ok bytes => some bytes
  | _, .error _ => none

end OAuth.Pem
