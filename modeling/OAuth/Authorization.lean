import OAuth.Params
import OAuth.Text.Blank

/-!
# Authorization headers

The value of a header is a scheme and, for this protocol's scheme, elements between commas. An
element is a key and a value, which may be in quotes; a comma in quotes does not end an element.
Main statement: `Authorization.join_splitUnquoted`, splitting loses nothing.
-/

namespace OAuth.Authorization

/-- The name of the protocol's scheme. -/
def scheme : Text := "OAuth".toList

/-- The parts between separators that are not in quotes, from a place in or out of quotes. -/
def splitFrom (sep : Char) (quoted : Bool) : Text → List Text
  | [] => [[]]
  | c :: rest =>
    if c = '"' then
      match splitFrom sep (!quoted) rest with
      | [] => [[c]]
      | part :: more => (c :: part) :: more
    else if c = sep ∧ quoted = false then [] :: splitFrom sep quoted rest
    else
      match splitFrom sep quoted rest with
      | [] => [[c]]
      | part :: more => (c :: part) :: more

/-- The parts between separators that are not in quotes. -/
def splitUnquoted (sep : Char) (s : Text) : List Text := splitFrom sep false s

/-- A value without the quotes around it, if it has both. -/
def unquote (value : Text) : Text :=
  ((Text.after? ['"'] value).bind (Text.before? ['"'])).getD value

/-- An element as a pair; an element without a `=` has the empty value. -/
def readElement (element : Text) : Pair :=
  match Text.cut? '=' element with
  | some (key, value) => (Text.trim key, unquote (Text.trim value))
  | none => (Text.trim element, [])

/-- The elements of a header's value that are not blank. -/
def elements (s : Text) : List Text :=
  ((splitUnquoted ',' s).map Text.trim).filter fun element => !element.isEmpty

/-- The scheme of a header, and the text after it. -/
def schemeAndRest (header : Text) : Text × Text :=
  let header := Text.trimStart header
  (Text.cut? ' ' header).getD (header, [])

/-- The elements of a header as pairs, unless its scheme is another. -/
def read? (header : Text) : Option (List Pair) :=
  let (name, rest) := schemeAndRest header
  if Text.sameLetters name scheme then some ((elements rest).map readElement) else none

/-- The pairs of a header, unless its scheme is another. -/
def params? (header : Text) : Option Params := (read? header).map Params.ofList

/-- A header with some elements. -/
def write (elements : List Text) : Text :=
  scheme ++ ' ' :: Text.join [',', ' '] elements

theorem splitFrom_ne_nil (sep : Char) (quoted : Bool) (s : Text) : splitFrom sep quoted s ≠ [] := by
  cases s with
  | nil => simp [splitFrom]
  | cons c rest =>
    simp only [splitFrom]
    split
    · split <;> simp
    split
    · simp
    · split <;> simp

theorem join_splitFrom (sep : Char) (quoted : Bool) (s : Text) :
    Text.join [sep] (splitFrom sep quoted s) = s := by
  have grow : ∀ (c : Char) (q : Bool) (rest : Text), Text.join [sep] (splitFrom sep q rest) = rest →
      Text.join [sep] (match splitFrom sep q rest with
        | [] => [[c]]
        | part :: more => (c :: part) :: more) = c :: rest := by
    intro c q rest h
    cases hs : splitFrom sep q rest with
    | nil => exact absurd hs (splitFrom_ne_nil sep q rest)
    | cons part more =>
      cases more <;> simpa [hs, Text.join, List.intercalate] using h
  induction s generalizing quoted with
  | nil => rfl
  | cons c rest ih =>
    simp only [splitFrom]
    split
    · exact grow c _ rest (ih _)
    split
    · next h =>
      obtain ⟨rfl, rfl⟩ := h
      cases hs : splitFrom c false rest with
      | nil => exact absurd hs (splitFrom_ne_nil c false rest)
      | cons part more => simpa [hs, Text.join, List.intercalate] using ih false
    · exact grow c _ rest (ih _)

/-- **Splitting loses nothing.** -/
theorem join_splitUnquoted (sep : Char) (s : Text) : Text.join [sep] (splitUnquoted sep s) = s :=
  join_splitFrom sep false s

end OAuth.Authorization
