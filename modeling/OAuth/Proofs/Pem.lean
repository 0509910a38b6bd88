import OAuth.Pem
import OAuth.Proofs.Base64
import OAuth.Proofs.Text

/-!
# Documents are read back

Bytes that stand in a document, in lines of 64 symbols, are read from it, whichever of the three
line ends the lines have. Main statement: `Pem.decode?_document`.
-/

namespace OAuth.Pem

/-! ## Line ends -/

/-- The ways to end a line. -/
inductive LineEnd where
  /-- a line feed -/
  | lf
  /-- a carriage return -/
  | cr
  /-- both of them -/
  | crlf
  deriving DecidableEq, Repr

/-- The end of a line. -/
def LineEnd.text : LineEnd → Text
  | .lf => ['\n']
  | .cr => ['\r']
  | .crlf => ['\r', '\n']

variable {c : Char} {rest s : Text} (eol : LineEnd)

theorem afterLineEnd?_append (h : c ≠ '\n') :
    afterLineEnd? (eol.text ++ c :: rest) = some (c :: rest) := by
  cases eol with
  | lf => rfl
  | cr => simp [LineEnd.text, afterLineEnd?, h]
  | crlf => rfl

theorem beforeLineEnd?_append (h : c ≠ '\r') :
    beforeLineEnd? (s ++ [c] ++ eol.text) = some (s ++ [c]) := by
  cases eol with
  | lf => simp [LineEnd.text, beforeLineEnd?, h]
  | cr => simp [LineEnd.text, beforeLineEnd?]
  | crlf => simp [LineEnd.text, beforeLineEnd?]

/-- A text that ends in another character has no line end to take away. -/
theorem beforeLineEnd?_concat (hlf : c ≠ '\n') (hcr : c ≠ '\r') :
    beforeLineEnd? (s ++ [c]) = none := by
  simp [beforeLineEnd?, hlf, hcr]

/-! ## Lines -/

/-- Symbols in lines, when the first of them has `left` places left. -/
def linesWith (eol : LineEnd) : (left : Nat) → Text → Text
  | _, [] => []
  | left + 1, c :: rest => c :: linesWith eol left rest
  | 0, c :: rest => eol.text ++ c :: linesWith eol (lineLength - 1) rest

/-- **Lines hold their symbols, however they end.** -/
theorem symbols?_linesWith (left : Nat) (h : ∀ c ∈ s, c ≠ '\n') :
    symbols? left (linesWith eol left s) = some s := by
  induction s generalizing left with
  | nil => cases left <;> rfl
  | cons c s ih =>
    obtain ⟨hc, hs⟩ := List.forall_mem_cons.1 h
    cases left with
    | zero =>
      cases eol with
      | lf => simp [linesWith, LineEnd.text, symbols?, lineLength, ih _ hs]
      | cr => simp [linesWith, LineEnd.text, symbols?, lineLength, ih _ hs, hc]
      | crlf => simp [linesWith, LineEnd.text, symbols?, lineLength, ih _ hs]
    | succ left => simp [linesWith, symbols?, ih _ hs]

/-- Lines end in the last of their symbols. -/
theorem exists_linesWith_eq_concat (left : Nat) (h : s ≠ []) :
    ∃ front, ∃ c ∈ s, linesWith eol left s = front ++ [c] := by
  induction s generalizing left with
  | nil => exact absurd rfl h
  | cons c s ih =>
    by_cases hs : s = []
    · subst hs
      cases left with
      | zero => exact ⟨eol.text, c, List.mem_cons_self, rfl⟩
      | succ left => exact ⟨[], c, List.mem_cons_self, by cases left <;> rfl⟩
    · cases left with
      | zero =>
        obtain ⟨front, d, hd, hlines⟩ := ih (lineLength - 1) hs
        refine ⟨eol.text ++ c :: front, d, List.mem_cons_of_mem _ hd, ?_⟩
        simp [linesWith, hlines]
      | succ left =>
        obtain ⟨front, d, hd, hlines⟩ := ih left hs
        refine ⟨c :: front, d, List.mem_cons_of_mem _ hd, ?_⟩
        simp [linesWith, hlines]

/-! ## Documents -/

/-- The document of bytes that are what a label says. -/
def document (eol : LineEnd) (label : Text) (bytes : List UInt8) : Text :=
  beginning ++ label ++ dashes ++ eol.text ++ linesWith eol lineLength (Base64.encode bytes) ++
    eol.text ++ ending ++ label ++ dashes

/-- What stands between the line that begins a document and the one that ends it is its body. -/
theorem body?_eq_some {front more lines : Text} {first last : Char} (label : Text)
    (hstart : lines = first :: more) (hend : lines = front ++ [last]) (hfirst : first ≠ '\n')
    (hlast : last ≠ '\r') :
    body? label (beginning ++ label ++ dashes ++ eol.text ++ lines ++ eol.text ++ ending ++ label ++
      dashes) = some lines := by
  -- the line that begins the document, the one that ends it, and the ends of the lines between
  have hbeginning : ∀ rest, afterBeginning? (beginning ++ rest) = some rest := by
    intro rest
    rw [afterBeginning?, Text.after?_eq_some.2 rfl]
  have hnamed : ∀ rest, Text.after? (label ++ dashes) (label ++ dashes ++ rest) = some rest :=
    fun rest => Text.after?_eq_some.2 rfl
  have hopened : ∀ rest, afterLineEnd? (eol.text ++ (lines ++ rest)) = some (lines ++ rest) := by
    intro rest
    rw [hstart]
    exact afterLineEnd?_append eol hfirst
  have hdashes : ∀ front, beforeLineEnd? (front ++ dashes) = none := by
    intro front
    have hconcat : dashes = "----".toList ++ ['-'] := rfl
    rw [hconcat, ← List.append_assoc]
    exact beforeLineEnd?_concat (by decide) (by decide)
  have hending : Text.before? (ending ++ label ++ dashes)
      (lines ++ eol.text ++ (ending ++ label ++ dashes)) = some (lines ++ eol.text) :=
    Text.before?_eq_some.2 rfl
  have hclosed : beforeLineEnd? (lines ++ eol.text) = some lines := by
    rw [hend]
    exact beforeLineEnd?_append eol hlast
  have hlined := hdashes (lines ++ eol.text ++ ending ++ label)
  simp only [List.append_assoc] at hnamed hending hlined ⊢
  simp only [body?, hbeginning, bind, Option.bind, hnamed, hopened, hlined, Option.getD_none,
    List.append_assoc, hending, hclosed]

/-- The lines stand between the two that name what the document holds. -/
theorem body?_document (label : Text) {bytes : List UInt8} (h : bytes ≠ []) :
    body? label (document eol label bytes) =
      some (linesWith eol lineLength (Base64.encode bytes)) := by
  have hne := Base64.encode_ne_nil h
  obtain ⟨first, more, hfirst⟩ := List.exists_cons_of_ne_nil hne
  obtain ⟨front, last, hlast, hend⟩ := exists_linesWith_eq_concat eol lineLength hne
  have hstart : linesWith eol lineLength (Base64.encode bytes) =
      first :: linesWith eol (lineLength - 1) more := by
    rw [hfirst]
    rfl
  refine body?_eq_some eol label hstart hend ?_ ?_
  · rintro rfl
    apply (Base64.isVisible_encode bytes).not_mem (c := '\n') (by decide)
    rw [hfirst]
    exact List.mem_cons_self
  · rintro rfl
    exact (Base64.isVisible_encode bytes).not_mem (by decide) hlast

/-- **The bytes of a document are read from it.** -/
theorem decode?_document (label : Text) {bytes : List UInt8} (h : bytes ≠ []) :
    decode? label (document eol label bytes) = some bytes := by
  have hsymbols : symbols? lineLength (linesWith eol lineLength (Base64.encode bytes)) =
      some (Base64.encode bytes) := by
    apply symbols?_linesWith
    rintro c hc rfl
    exact (Base64.isVisible_encode bytes).not_mem (by decide) hc
  obtain ⟨first, more, hfirst⟩ := List.exists_cons_of_ne_nil (Base64.encode_ne_nil h)
  have hbytes := Base64.decode_encode bytes
  rw [hfirst] at hsymbols hbytes
  simp only [decode?, body?_document eol label h, hfirst, bind, Option.bind, hsymbols, hbytes]

end OAuth.Pem
