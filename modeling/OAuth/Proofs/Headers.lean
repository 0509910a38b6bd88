import Mathlib.Data.List.Induction
import OAuth.Proofs.Frame

/-!
# Headers of a request that is made step by step

A request starts with no headers, and is given some, one after the other, and maybe a body with its
media type. Names that differ in the case of letters only are one name, which keeps its first
spelling and place, and has the value that it was given last. Main statements:
`HeaderList.find?_setAll` and `HeaderList.map_fst_setAll`, what a run of settings comes to, and
`PlainRequest.headers_of_changes`.
-/

namespace OAuth

namespace HeaderList

variable {headers : HeaderList} {name value : Text}

/-! ## One setting -/

theorem sameLetters_comm (a b : Text) : Text.sameLetters a b = Text.sameLetters b a := by
  rw [Text.sameLetters, Text.sameLetters, Bool.beq_comm]

/-- Names that are the same but for the case of letters find the same header. -/
theorem find?_congr (headers : HeaderList) {name other : Text}
    (h : Text.sameLetters name other = true) : headers.find? name = headers.find? other := by
  have hkey : ∀ key, Text.sameLetters key name = Text.sameLetters key other := by
    intro key
    rw [sameLetters_comm key, sameLetters_comm key, sameLetters_trans h]
  induction headers with
  | nil => rfl
  | cons header rest ih =>
    obtain ⟨key, value⟩ := header
    rw [find?, find?, hkey, ih]

/-- **A setting changes what is found under its name**, and under no other. -/
theorem find?_set_eq (headers : HeaderList) (name value other : Text) :
    (headers.set name value).find? other =
      if Text.sameLetters name other then some value else headers.find? other := by
  cases h : Text.sameLetters name other with
  | false => simpa using find?_set_of_ne value h
  | true =>
    rw [← find?_congr _ h, find?_set]
    rfl

/-- **A name that is there keeps its place and spelling**, and a new one is put at the end. -/
theorem map_fst_set (headers : HeaderList) (name value : Text) :
    (headers.set name value).map Prod.fst =
      if (headers.map Prod.fst).any (Text.sameLetters name) then headers.map Prod.fst
      else headers.map Prod.fst ++ [name] := by
  induction headers with
  | nil => rfl
  | cons header rest ih =>
    obtain ⟨key, old⟩ := header
    by_cases h : Text.sameLetters key name = true
    · have hname : Text.sameLetters name key = true := (sameLetters_comm name key).trans h
      simp [set, h, hname]
    · have hname : Text.sameLetters name key = false := by
        rw [sameLetters_comm]
        simpa using h
      rw [set, if_neg h, List.map_cons, ih, List.map_cons, List.any_cons, hname, Bool.false_or]
      split <;> rfl

/-- Headers whose names differ in more than the case of letters. -/
def IsSingle (headers : HeaderList) : Prop :=
  (headers.map Prod.fst).Pairwise fun a b => Text.sameLetters a b = false

theorem IsSingle.set (h : headers.IsSingle) (name value : Text) :
    (headers.set name value).IsSingle := by
  rw [IsSingle, map_fst_set]
  split
  · exact h
  · next hnew =>
    refine List.pairwise_append.2 ⟨h, List.pairwise_singleton _ _, ?_⟩
    intro a ha b hb
    rw [List.mem_singleton.1 hb, sameLetters_comm]
    simp only [List.any_eq_true, not_exists, not_and, Bool.not_eq_true] at hnew
    exact hnew a ha

/-! ## Many settings -/

/-- Headers with the values that some settings give them, one after the other. -/
def setAll (headers : HeaderList) (settings : List (Text × Text)) : HeaderList :=
  settings.foldl (fun headers setting => headers.set setting.1 setting.2) headers

/-- The value that settings give to a name last. -/
def lastValue? (settings : List (Text × Text)) (name : Text) : Option Text :=
  (settings.filterMap fun setting =>
    if Text.sameLetters setting.1 name then some setting.2 else none).getLast?

/-- **The last setting of a name counts.** -/
theorem find?_setAll (headers : HeaderList) (settings : List (Text × Text)) (name : Text) :
    (headers.setAll settings).find? name = (lastValue? settings name).or (headers.find? name) := by
  -- the rest is set upon what the first setting leaves, so the headers vary in the induction
  induction settings generalizing headers with
  | nil => rfl
  | cons setting rest ih =>
    have hstep : headers.setAll (setting :: rest) =
        (headers.set setting.1 setting.2).setAll rest := rfl
    rw [hstep, ih, find?_set_eq, lastValue?, lastValue?, Text.getLast?_filterMap_cons,
      Option.or_assoc]
    split <;> rfl

theorem setAll_concat (settings : List (Text × Text)) (setting : Text × Text) :
    headers.setAll (settings ++ [setting]) =
      (headers.setAll settings).set setting.1 setting.2 := by
  rw [setAll, List.foldl_concat, setAll]

/-- **Each name is listed where it was first set, and as it was spelled there.** -/
theorem map_fst_setAll (settings : List (Text × Text)) :
    (setAll [] settings).map Prod.fst =
      (settings.map Prod.fst).eraseDupsBy Text.sameLetters := by
  induction settings using List.reverseRecOn with
  | nil => rfl
  | append_singleton settings setting ih =>
    rw [setAll_concat, map_fst_set, ih, List.map_append, List.map_singleton,
      Text.eraseDupsBy_concat]

theorem isSingle_setAll (settings : List (Text × Text)) : (setAll [] settings).IsSingle := by
  induction settings using List.reverseRecOn with
  | nil => exact .nil
  | append_singleton settings setting ih =>
    rw [setAll_concat]
    exact ih.set _ _

end HeaderList

namespace PlainRequest

/-! ## Changes -/

/-- What is done to a request that is made step by step. -/
inductive Change where
  /-- a header is set -/
  | header (name value : Text)
  /-- a body of a media type is given -/
  | body (contentType : Text) (bytes : List UInt8)
  /-- a form is given -/
  | form (fields : List (Text × Text))
  deriving DecidableEq, Repr

/-- The header that a change sets. -/
def Change.setting : Change → Text × Text
  | header name value => (name, value)
  | body contentType _ => (contentTypeHeader, contentType)
  | form _ => (contentTypeHeader, Form.mediaType)

/-- The body that a change gives. -/
def Change.body? : Change → Option (List UInt8)
  | header _ _ => none
  | body _ bytes => some bytes
  | form fields => some (Utf8.encode (Form.encode fields))

/-- The request after a change. -/
def change (r : PlainRequest) : Change → PlainRequest
  | .header name value => Request.withHeader r name value
  | .body contentType bytes => r.withBody contentType bytes
  | .form fields => r.withForm fields

/-- The request after changes, one after the other. -/
def changeAll (r : PlainRequest) (changes : List Change) : PlainRequest := changes.foldl change r

/-- **A change sets one header**, and maybe the body. -/
theorem change_eq (r : PlainRequest) (a : Change) :
    r.change a = { r with
      headers := r.headers.set a.setting.1 a.setting.2
      body := a.body?.or r.body } := by
  cases a <;> rfl

/-- Changes come to settings of headers, and to the last body that is given. -/
theorem changeAll_eq (r : PlainRequest) (changes : List Change) :
    r.changeAll changes = { r with
      headers := r.headers.setAll (changes.map Change.setting)
      body := (changes.filterMap Change.body?).getLast?.or r.body } := by
  induction changes generalizing r with
  | nil => rfl
  | cons first rest ih =>
    have hstep : r.changeAll (first :: rest) = (r.change first).changeAll rest := rfl
    rw [hstep, ih, change_eq, Text.getLast?_filterMap_cons, Option.or_assoc]
    rfl

/-- What a change does to a request: it sets the header of a name, and at most the body besides. -/
structure IsChanged (a : Change) (r r' : PlainRequest) : Prop where
  /-- the value is found under the name, and what was there under the others -/
  header : ∀ name, Request.header? r' name =
    if Text.sameLetters a.setting.1 name then some a.setting.2 else Request.header? r name
  /-- a name that is there keeps its place and spelling, a new one is put at the end -/
  names : (Request.headers r').map Prod.fst =
    if ((Request.headers r).map Prod.fst).any (Text.sameLetters a.setting.1) then
      (Request.headers r).map Prod.fst
    else (Request.headers r).map Prod.fst ++ [a.setting.1]
  /-- the headers of other names stay as they are, in their order -/
  others : HeaderList.without (Request.headers r') a.setting.1 =
    HeaderList.without (Request.headers r) a.setting.1
  /-- the method stays -/
  method : Request.method r' = Request.method r
  /-- the URL stays -/
  url : Request.url r' = Request.url r
  /-- the body is the one that is given, if there is one -/
  body : Request.payload? r' = a.body?.or (Request.payload? r)

theorem isChanged_change (r : PlainRequest) (a : Change) : IsChanged a r (r.change a) := by
  rw [change_eq]
  exact {
    header := fun name => HeaderList.find?_set_eq r.headers a.setting.1 a.setting.2 name
    names := HeaderList.map_fst_set r.headers a.setting.1 a.setting.2
    others := HeaderList.without_set r.headers a.setting.1 a.setting.2
    method := rfl
    url := rfl
    body := rfl }

/-- **What changes make of a new request.** No two of its headers have one name. A header has the
value of the last change that sets its name, and the place and the spelling of the first one. One
more change sets the header of its name, and at most the body besides. -/
theorem headers_of_changes (method url : Text) (changes : List Change) :
    let r := changeAll { method, url } changes
    let settings := changes.map Change.setting
    (Request.headers r).Pairwise (fun a b => Text.sameLetters a.1 b.1 = false) ∧
      (∀ name, Request.header? r name = HeaderList.lastValue? settings name) ∧
      (Request.headers r).map Prod.fst =
        (settings.map Prod.fst).eraseDupsBy Text.sameLetters ∧
      (Request.method r = method ∧ Request.url r = url ∧
        Request.payload? r = (changes.filterMap Change.body?).getLast?) ∧
      ∀ a, IsChanged a r (r.change a) := by
  intro r settings
  have hr : r = { method, url
                  headers := HeaderList.setAll [] settings
                  body := (changes.filterMap Change.body?).getLast?.or none } := changeAll_eq _ _
  have hheaders : Request.headers r = HeaderList.setAll [] settings := by
    rw [hr]
    rfl
  refine ⟨?_, fun name => ?_, ?_, ⟨?_, ?_, ?_⟩, fun a => isChanged_change r a⟩
  · rw [hheaders]
    exact List.pairwise_map.1 (HeaderList.isSingle_setAll settings)
  · have hfind := HeaderList.find?_setAll [] settings name
    rw [hr]
    exact hfind.trans Option.or_none
  · rw [hheaders, HeaderList.map_fst_setAll]
  · rw [hr]
    rfl
  · rw [hr]
    rfl
  · rw [hr]
    exact Option.or_none

example : Request.headers (changeAll (get "http://h/".toList)
    [.header "authorization".toList "a".toList, .form [],
      .header "AUTHORIZATION".toList "b".toList]) =
    [("authorization".toList, "b".toList), (contentTypeHeader, Form.mediaType)] := by decide

end PlainRequest

end OAuth
