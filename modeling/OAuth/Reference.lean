import OAuth.Form

/-!
# References

What a signature has to know of a URL's text: the part before the query, the query, and the
fragment. No part is checked or changed, so `Reference.toText_ofText` gives the text back.

Fields are put at the end of a text (`Reference.addFields`) or at the end of its query
(`Reference.append`), and taken out by key (`Reference.removeKeys`).
-/

namespace OAuth

/-- A URL's text, taken apart at its first `#` and the first `?` before it. -/
structure Reference where
  /-- the text before the query -/
  base : Text
  /-- the text after the `?` -/
  query : Option Text
  /-- the text after the `#` -/
  fragment : Option Text
  deriving DecidableEq, Repr

namespace Reference

/-- The text before the fragment, taken apart at its query. -/
def ofBase (s : Text) (fragment : Option Text) : Reference :=
  match Text.cut? '?' s with
  | some (base, query) => ⟨base, some query, fragment⟩
  | none => ⟨s, none, fragment⟩

/-- A text taken apart. -/
def ofText (s : Text) : Reference :=
  match Text.cut? '#' s with
  | some (before, fragment) => ofBase before (some fragment)
  | none => ofBase s none

/-- A part with the sign that introduces it, if it is there. -/
def introduced (sign : Char) : Option Text → Text
  | some part => sign :: part
  | none => []

/-- The parts put together. -/
def toText (r : Reference) : Text :=
  r.base ++ introduced '?' r.query ++ introduced '#' r.fragment

theorem toText_ofBase (s : Text) (fragment : Option Text) :
    (ofBase s fragment).toText = s ++ introduced '#' fragment := by
  simp only [ofBase]
  split
  · next base query h => simp [toText, introduced, (Text.cut?_eq_some.1 h).1]
  · simp [toText, introduced]

/-- **Taking a text apart loses nothing.** -/
theorem toText_ofText (s : Text) : (ofText s).toText = s := by
  simp only [ofText]
  split
  · next before fragment h => simp [toText_ofBase, introduced, (Text.cut?_eq_some.1 h).1]
  · simp [toText_ofBase, introduced]

/-- The fields of the query. -/
def fields (r : Reference) : List Form.Field :=
  match r.query with
  | some query => Form.decode query
  | none => []

/-- The query without the fields of some keys; a query left with no field is dropped. -/
def withoutKeys (r : Reference) (keys : List Text) : Reference :=
  match r.query with
  | none => r
  | some query =>
    match (Form.segments query).filter fun segment =>
        !keys.contains (Percent.decode (Form.segmentKey segment)) with
    | [] => { r with query := none }
    | kept => { r with query := some (Text.join ['&'] kept) }

/-- The query with a written form at its end. -/
def extend (r : Reference) (form : Text) : Reference :=
  match r.query with
  | none => { r with query := some form }
  | some query => { r with query := some (query ++ '&' :: form) }

/-- A text without the fields of some keys. -/
def removeKeys (url : Text) (keys : List Text) : Text := ((ofText url).withoutKeys keys).toText

/-- A text with a written form at the end of its query, before the fragment. -/
def append (url form : Text) : Text := ((ofText url).extend form).toText

/-- A text with fields at its end, after a `&` if the text has a `?`, else after a `?`. -/
def addFields (url : Text) (fields : List (Text × Text)) : Text :=
  match fields with
  | [] => url
  | fields => url ++ (if url.contains '?' then '&' else '?') :: Form.encode fields

/-- The keys of a text's query, decoded. -/
def keys (url : Text) : List Text := (ofText url).fields.map Prod.fst

end Reference

end OAuth
