import OAuth.Request

/-!
# Plain requests

A request that stores the texts it is given. A header keeps the spelling and the place of its
first setting. `PlainRequest.header?_withHeader` says that what is set is found, and
`PlainRequest.header?_withHeader_of_ne` that nothing else changes.
-/

namespace OAuth

/-- The method of a request that asks for something. -/
def getMethod : Text := "GET".toList

/-- Headers in the order of their first setting. -/
abbrev HeaderList := List (Text × Text)

namespace HeaderList

/-- The value of the header with a name, in any case. -/
def find? : HeaderList → Text → Option Text
  | [], _ => none
  | (key, value) :: rest, name =>
    if Text.sameLetters key name then some value else find? rest name

/-- Headers with one value for a name: in the place of the old one, or at the end. -/
def set : HeaderList → Text → Text → HeaderList
  | [], name, value => [(name, value)]
  | (key, old) :: rest, name, value =>
    if Text.sameLetters key name then (key, value) :: rest else (key, old) :: set rest name value

theorem sameLetters_trans {a b c : Text} (hab : Text.sameLetters a b = true) :
    Text.sameLetters a c = Text.sameLetters b c := by
  simp only [Text.sameLetters, beq_iff_eq] at *
  rw [hab]

theorem find?_set (headers : HeaderList) (name value : Text) :
    (headers.set name value).find? name = some value := by
  induction headers with
  | nil => simp [set, find?, Text.sameLetters]
  | cons header rest ih =>
    obtain ⟨key, old⟩ := header
    by_cases h : Text.sameLetters key name = true <;> simp [set, find?, h, ih]

theorem find?_set_of_ne {headers : HeaderList} {name other : Text} (value : Text)
    (h : Text.sameLetters name other = false) :
    (headers.set name value).find? other = headers.find? other := by
  induction headers with
  | nil => simp [set, find?, h]
  | cons header rest ih =>
    obtain ⟨key, old⟩ := header
    by_cases hk : Text.sameLetters key name = true
    · simp [set, find?, hk, sameLetters_trans hk, h]
    · by_cases ho : Text.sameLetters key other = true <;> simp [set, find?, hk, ho, ih]

end HeaderList

/-- A request in memory. -/
structure PlainRequest where
  /-- the method -/
  method : Text
  /-- the text of the URL -/
  url : Text
  /-- the headers -/
  headers : HeaderList := []
  /-- the body, if there is one -/
  body : Option (List UInt8) := none
  deriving DecidableEq, Repr

namespace PlainRequest

/-- A request for what a URL names. -/
def get (url : Text) : PlainRequest := { method := getMethod, url }

instance : Request PlainRequest where
  method r := r.method
  withMethod r method := { r with method }
  url r := r.url
  withUrl r url := { r with url }
  header? r name := r.headers.find? name
  withHeader r name value := { r with headers := r.headers.set name value }
  headers r := r.headers
  payload? r := r.body

/-- The request with a body of a media type. -/
def withBody (r : PlainRequest) (contentType : Text) (body : List UInt8) : PlainRequest :=
  { Request.withHeader r contentTypeHeader contentType with body := some body }

/-- The request with a form for its body. -/
def withForm (r : PlainRequest) (fields : List (Text × Text)) : PlainRequest :=
  r.withBody Form.mediaType (Utf8.encode (Form.encode fields))

/-- What is set is found. -/
theorem header?_withHeader (r : PlainRequest) (name value : Text) :
    Request.header? (Request.withHeader r name value) name = some value :=
  r.headers.find?_set name value

/-- Setting a header changes no other one. -/
theorem header?_withHeader_of_ne {r : PlainRequest} {name other : Text} (value : Text)
    (h : Text.sameLetters name other = false) :
    Request.header? (Request.withHeader r name value) other = Request.header? r other :=
  HeaderList.find?_set_of_ne value h

end PlainRequest

end OAuth
