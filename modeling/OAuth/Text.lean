/-!
# Text

Text is the list of its characters, so that every reader and writer of the library recurses on
it. Two ways to take it apart are used everywhere: `Text.cut?`, at the first separator, and
`Text.pieces`, at each one. The main statements say that nothing is lost: `Text.cut?_eq_some`
puts the two sides together again, `Text.join_pieces` does so for all the pieces, and
`Text.pieces_join` finds the pieces of a join again.
-/

namespace OAuth

/-- A text, as the list of its characters. -/
abbrev Text := List Char

namespace Text

/-! ## Cutting -/

/-- The text before and after the first separator, if there is one. -/
def cut? (sep : Char) : Text → Option (Text × Text)
  | [] => none
  | c :: rest =>
    if c = sep then some ([], rest)
    else (cut? sep rest).map fun (front, back) => (c :: front, back)

/-- The text before the first separator, or all of it. -/
def upTo (sep : Char) (s : Text) : Text :=
  match cut? sep s with
  | some (front, _) => front
  | none => s

/-- The text between separators: one piece more than there are separators. -/
def pieces (sep : Char) : Text → List Text
  | [] => [[]]
  | c :: rest =>
    if c = sep then [] :: pieces sep rest
    else
      match pieces sep rest with
      | [] => [[c]]
      | piece :: more => (c :: piece) :: more

/-- Texts put together with a separator between them. -/
def join (sep : Text) (parts : List Text) : Text := sep.intercalate parts

/-- **A cut loses nothing**: the front has no separator, and the two sides make up the text. -/
theorem cut?_eq_some {sep : Char} {s front back : Text} :
    cut? sep s = some (front, back) ↔ s = front ++ sep :: back ∧ sep ∉ front := by
  induction s generalizing front with
  | nil => simp [cut?]
  | cons c rest ih =>
    by_cases h : c = sep
    · subst h
      cases front with
      | nil => simp [cut?, eq_comm]
      | cons d front => simp [cut?]; rintro rfl _ h; simp at h
    · cases front with
      | nil => simp [cut?, h]
      | cons d front =>
        simp only [cut?, h, ↓reduceIte, Option.map_eq_some_iff, Prod.exists, Prod.mk.injEq,
          List.cons_append, List.cons.injEq, List.mem_cons, not_or]
        constructor
        · rintro ⟨f, b, hcut, ⟨rfl, rfl⟩, rfl⟩
          obtain ⟨rfl, hf⟩ := ih.1 hcut
          exact ⟨⟨rfl, rfl⟩, fun hs => h hs.symm, hf⟩
        · rintro ⟨⟨rfl, hr⟩, _, hf⟩
          exact ⟨front, back, ih.2 ⟨hr, hf⟩, ⟨rfl, rfl⟩, rfl⟩

/-- There is no cut exactly when there is no separator. -/
theorem cut?_eq_none {sep : Char} {s : Text} : cut? sep s = none ↔ sep ∉ s := by
  induction s with
  | nil => simp [cut?]
  | cons c rest ih =>
    by_cases h : c = sep
    · simp [cut?, h]
    · simp [cut?, h, ih, Ne.symm h]

theorem pieces_ne_nil (sep : Char) (s : Text) : pieces sep s ≠ [] := by
  cases s with
  | nil => simp [pieces]
  | cons c rest =>
    simp only [pieces]
    split
    · simp
    · split <;> simp

/-- **Pieces lose nothing**: joined with the separator they are the text again. -/
theorem join_pieces (sep : Char) (s : Text) : join [sep] (pieces sep s) = s := by
  induction s with
  | nil => rfl
  | cons c rest ih =>
    simp only [pieces]
    split
    · next h =>
      subst h
      cases hp : pieces c rest with
      | nil => exact absurd hp (pieces_ne_nil c rest)
      | cons piece more => simpa [join, hp, List.intercalate] using ih
    · cases hp : pieces sep rest with
      | nil => exact absurd hp (pieces_ne_nil sep rest)
      | cons piece more =>
        cases more with
        | nil => simpa [join, hp, List.intercalate] using ih
        | cons next more => simpa [join, hp, List.intercalate] using ih

theorem pieces_eq_singleton {sep : Char} {s : Text} (h : sep ∉ s) : pieces sep s = [s] := by
  induction s with
  | nil => rfl
  | cons c s ih =>
    simp only [List.mem_cons, not_or] at h
    simp [pieces, Ne.symm h.1, ih h.2]

theorem pieces_append {sep : Char} {front : Text} (h : sep ∉ front) (s : Text) :
    pieces sep (front ++ sep :: s) = front :: pieces sep s := by
  induction front with
  | nil => simp [pieces]
  | cons c front ih =>
    simp only [List.mem_cons, not_or] at h
    simp [pieces, Ne.symm h.1, ih h.2]

/-- **Texts without the separator are the pieces of their join.** -/
theorem pieces_join {sep : Char} {parts : List Text} (hne : parts ≠ [])
    (h : ∀ part ∈ parts, sep ∉ part) : pieces sep (join [sep] parts) = parts := by
  induction parts with
  | nil => exact absurd rfl hne
  | cons part parts ih =>
    have hpart := h part List.mem_cons_self
    cases parts with
    | nil => simpa [join, List.intercalate] using pieces_eq_singleton hpart
    | cons next more =>
      have hrest := ih (by simp) fun q hq => h q (List.mem_cons_of_mem _ hq)
      have hjoin : join [sep] (part :: next :: more) =
          part ++ sep :: join [sep] (next :: more) := by
        simp [join, List.intercalate]
      rw [hjoin, pieces_append hpart, hrest]

/-- A number in decimal digits. -/
def decimal (n : Nat) : Text := Nat.toDigits 10 n

/-! ## Letter case -/

/-- ASCII letters in lower case, all else as it is. -/
def toLower (s : Text) : Text := s.map Char.toLower

/-- The same text up to the case of ASCII letters. -/
def sameLetters (a b : Text) : Bool := toLower a == toLower b

theorem sameLetters_iff {a b : Text} : sameLetters a b = true ↔ toLower a = toLower b := by
  simp [sameLetters]

/-- The text after a given beginning. -/
def after? : Text → Text → Option Text
  | [], s => some s
  | _ :: _, [] => none
  | p :: front, c :: s => if p = c then after? front s else none

theorem after?_eq_some {front s rest : Text} : after? front s = some rest ↔ s = front ++ rest := by
  induction front generalizing s with
  | nil => simp [after?]
  | cons p front ih =>
    cases s with
    | nil => simp [after?]
    | cons c s =>
      by_cases h : p = c
      · simp [after?, h, ih]
      · simp [after?, h, Ne.symm h]

/-- The text before a given end. -/
def before? (back s : Text) : Option Text := (after? back.reverse s.reverse).map List.reverse

theorem before?_eq_some {back s rest : Text} : before? back s = some rest ↔ s = rest ++ back := by
  simp only [before?, Option.map_eq_some_iff, after?_eq_some]
  constructor
  · rintro ⟨r, h, rfl⟩
    rw [← List.reverse_reverse s, h]
    simp
  · rintro rfl
    exact ⟨rest.reverse, by simp, by simp⟩

end Text

end OAuth
