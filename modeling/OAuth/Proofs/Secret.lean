import OAuth.Proofs.Pem
import OAuth.Rsa.Key

/-!
# Spellings of a private key

A key may be written as a secret in several ways, which `Rsa.PrivateKey.Spells` lists. Blanks that
are put into Base64 anywhere change nothing, not even the fault of a secret that is no key, and each
spelling of some bytes gives the key that they hold. Main statement:
`Rsa.PrivateKey.ofSecret_spellings`.
-/

namespace OAuth

namespace Text

/-! ## Blanks anywhere -/

variable {s t : Text}

/-- Texts, the second of which is the first with ASCII blanks put in anywhere. -/
inductive IsSpaced : Text → Text → Prop where
  /-- a text ends -/
  | nil : IsSpaced [] []
  /-- a character of the first text is one of the second -/
  | keep (c : Char) {s t : Text} (h : IsSpaced s t) : IsSpaced (c :: s) (c :: t)
  /-- a blank is put in -/
  | blank {c : Char} (hc : isAsciiBlank c = true) {s t : Text} (h : IsSpaced s t) :
    IsSpaced s (c :: t)

theorem IsSpaced.refl (s : Text) : IsSpaced s s := by
  induction s with
  | nil => exact .nil
  | cons c s ih => exact .keep c ih

/-- The text without the ASCII blanks in it. -/
def compact (s : Text) : Text := s.filter fun c => !isAsciiBlank c

/-- What is put in is left out again. -/
theorem IsSpaced.compact (h : IsSpaced s t) : compact t = compact s := by
  induction h with
  | nil => rfl
  | keep c h ih =>
    simp only [Text.compact, List.filter_cons] at ih ⊢
    rw [ih]
  | blank hc h ih =>
    rw [← ih, Text.compact, List.filter_cons_of_neg (by simp [hc])]
    rfl

theorem IsSpaced.trimStart (h : IsSpaced s t) : IsSpaced (trimStart s) (trimStart t) := by
  induction h with
  | nil => exact .nil
  | keep c h ih =>
    cases hc : isBlank c with
    | true => simpa [Text.trimStart, hc] using ih
    | false =>
      rw [trimStart_eq_self hc, trimStart_eq_self hc]
      exact h.keep c
  | blank hc h ih => simpa [Text.trimStart, isAsciiBlank_isBlank hc] using ih

/-- How the second text begins is how the first one does, if no blank is among it. -/
theorem IsSpaced.isPrefix (h : IsSpaced s t) {p : Text} (hp : ∀ c ∈ p, isAsciiBlank c = false)
    (hbegins : p <+: t) : p <+: s := by
  induction h generalizing p with
  | nil => exact hbegins
  | keep c h ih =>
    cases p with
    | nil => exact List.nil_prefix
    | cons d p =>
      obtain ⟨rfl, hrest⟩ := List.cons_prefix_cons.1 hbegins
      exact List.cons_prefix_cons.2 ⟨rfl, ih (List.forall_mem_cons.1 hp).2 hrest⟩
  | blank hc h ih =>
    cases p with
    | nil => exact List.nil_prefix
    | cons d p =>
      obtain ⟨rfl, -⟩ := List.cons_prefix_cons.1 hbegins
      have hd := (List.forall_mem_cons.1 hp).1
      rw [hc] at hd
      cases hd

theorem compact_trimStart (s : Text) : compact (trimStart s) = trimStart (compact s) := by
  induction s with
  | nil => rfl
  | cons c s ih =>
    cases hblank : isBlank c with
    | true =>
      cases hascii : isAsciiBlank c <;>
        simpa [compact, trimStart, hblank, hascii, List.filter_cons] using ih
    | false => simp [compact, trimStart, hblank, isAsciiBlank_eq_false hblank]

theorem compact_reverse (s : Text) : compact s.reverse = (compact s).reverse :=
  List.filter_reverse

/-- Trimming takes away the same blanks before and after others are left out. -/
theorem compact_trim (s : Text) : compact (trim s) = trim (compact s) := by
  have htrimEnd : ∀ s, compact (trimEnd s) = trimEnd (compact s) := by
    intro s
    have hreverse := compact_trimStart s.reverse
    rw [compact_reverse] at hreverse
    rw [trimEnd, compact_reverse]
    exact congrArg List.reverse hreverse
  rw [trim, htrimEnd, compact_trimStart, trim]

end Text

namespace Rsa.PrivateKey

/-! ## Spellings -/

/-- Secrets that hold some bytes. -/
inductive Spells (bytes : List UInt8) : Text → Prop where
  /-- in Base64, with blanks anywhere -/
  | symbols {secret : Text} (h : Text.IsSpaced (Base64.encode bytes) secret) : Spells bytes secret
  /-- in a document, with blanks before and behind it -/
  | document (eol : Pem.LineEnd) {front back : Text} (hfront : ∀ c ∈ front, Text.isBlank c = true)
    (hback : ∀ c ∈ back, Text.isBlank c = true) :
    Spells bytes (front ++ Pem.document eol framedLabel bytes ++ back)

theorem ofSecret_of_not_isPrefix {secret : Text} (h : ¬ documentStart <+: Text.trim secret) :
    ofSecret secret = ofBase64 (Text.trim secret) :=
  if_neg fun hstart => h (List.isPrefixOf_iff_prefix.1 hstart)

theorem ofBase64_congr {s t : Text} (h : Text.compact s = Text.compact t) :
    ofBase64 s = ofBase64 t := by
  rw [Text.compact, Text.compact] at h
  rw [ofBase64, ofBase64, h]

/-- **Blanks that are put into a secret do not make it a document, and change nothing.** -/
theorem ofSecret_of_isSpaced {s t : Text} (h : Text.IsSpaced s t)
    (hs : ¬ documentStart <+: Text.trim s) : ofSecret t = ofSecret s := by
  have hvisible : documentStart.IsVisible := by decide
  have hblank := hvisible.isBlank_eq_false
  have ht : ¬ documentStart <+: Text.trim t := by
    intro hstart
    apply hs
    rw [Text.trim, Text.isPrefix_trimEnd hblank] at hstart ⊢
    exact h.trimStart.isPrefix (fun c hc => Text.isAsciiBlank_eq_false (hblank c hc)) hstart
  rw [ofSecret_of_not_isPrefix ht, ofSecret_of_not_isPrefix hs]
  apply ofBase64_congr
  rw [Text.compact_trim, Text.compact_trim, h.compact]

/-- The symbols of bytes give the key that the bytes hold. -/
theorem ofSecret_encode {bytes : List UInt8} {key : PrivateKey} (h : ofFramed? bytes = some key) :
    ¬ documentStart <+: Text.trim (Base64.encode bytes) ∧
      ofSecret (Base64.encode bytes) = .ok key := by
  have hblank := (Base64.isVisible_encode bytes).isBlank_eq_false
  have htrim : Text.trim (Base64.encode bytes) = Base64.encode bytes := Text.trim_eq_self hblank
  have hstart : ¬ documentStart <+: Text.trim (Base64.encode bytes) := by
    intro hbegins
    rw [htrim] at hbegins
    exact Base64.dash_not_mem_encode bytes (hbegins.subset (by decide))
  have hfilter : (Base64.encode bytes).filter (fun c => !Text.isAsciiBlank c) =
      Base64.encode bytes := by
    apply List.filter_eq_self.2
    intro c hc
    rw [Text.isAsciiBlank_eq_false (hblank c hc)]
    rfl
  refine ⟨hstart, ?_⟩
  rw [ofSecret_of_not_isPrefix hstart, htrim, ofBase64, hfilter, Base64.decode_encode]
  simp only [h]

/-- A document begins as it is told by, and ends in a dash. -/
theorem exists_document_eq (eol : Pem.LineEnd) (bytes : List UInt8) :
    ∃ middle, Pem.document eol framedLabel bytes = documentStart ++ middle ++ ['-'] := by
  have hbeginning : Pem.beginning = documentStart ++ [' '] := rfl
  have hdashes : Pem.dashes = "----".toList ++ ['-'] := rfl
  refine ⟨' ' :: framedLabel ++ Pem.dashes ++ eol.text ++
    Pem.linesWith eol Pem.lineLength (Base64.encode bytes) ++ eol.text ++ Pem.ending ++
      framedLabel ++ "----".toList, ?_⟩
  rw [Pem.document, hbeginning, hdashes]
  simp only [List.append_assoc, List.cons_append, List.nil_append]

/-- A document gives the key that its bytes hold, whatever blanks are around it. -/
theorem ofSecret_document (eol : Pem.LineEnd) {bytes : List UInt8} {key : PrivateKey}
    (h : ofFramed? bytes = some key) {front back : Text}
    (hfront : ∀ c ∈ front, Text.isBlank c = true) (hback : ∀ c ∈ back, Text.isBlank c = true) :
    ofSecret (front ++ Pem.document eol framedLabel bytes ++ back) = .ok key := by
  have hne : bytes ≠ [] := by
    rintro rfl
    cases h
  obtain ⟨middle, hmiddle⟩ := exists_document_eq eol bytes
  have hdash : Text.isBlank '-' = false := by decide
  have htrim : Text.trim (front ++ Pem.document eol framedLabel bytes ++ back) =
      Pem.document eol framedLabel bytes := by
    have hstart : Text.trimStart (documentStart ++ middle ++ ['-']) =
      documentStart ++ middle ++ ['-'] := Text.trimStart_eq_self hdash
    rw [Text.trim_append hfront hback, hmiddle, Text.trim, hstart, Text.trimEnd_eq_self hdash]
  have hstart : documentStart.isPrefixOf (Pem.document eol framedLabel bytes) = true := by
    rw [List.isPrefixOf_iff_prefix, hmiddle, List.append_assoc]
    exact List.prefix_append _ _
  have hread : ofDocument? (Pem.document eol framedLabel bytes) = some key := by
    simp only [ofDocument?, Pem.decode?_document eol framedLabel hne, Option.bind, h]
  simp only [ofSecret, htrim, hstart, if_true, hread]

/-- **The spellings of a key agree**: ASCII blanks may be put anywhere into a secret that is no
document, which leaves the key or the fault as it is, and all the secrets that hold some bytes give
the key that these bytes are. -/
theorem ofSecret_spellings :
    (∀ s t, Text.IsSpaced s t → ¬ documentStart <+: Text.trim s → ofSecret t = ofSecret s) ∧
      ∀ bytes key secret, ofFramed? bytes = some key → Spells bytes secret →
        ofSecret secret = .ok key := by
  refine ⟨fun s t h hs => ofSecret_of_isSpaced h hs, ?_⟩
  intro bytes key secret hkey hspells
  cases hspells with
  | symbols h =>
    obtain ⟨hstart, hread⟩ := ofSecret_encode hkey
    rw [ofSecret_of_isSpaced h hstart]
    exact hread
  | document eol hfront hback => exact ofSecret_document eol hkey hfront hback

/-- A key that is too small for anything. -/
def smallKey : PrivateKey where
  modulus := 3233
  publicExponent := 17
  privateExponent := 2753
  p := 61
  q := 53

/-- The same key in a frame. -/
def smallBytes : List UInt8 :=
  [0x30, 0x33, 0x02, 0x01, 0x00, 0x30, 0x0D] ++ algorithm ++
    [0x04, 0x1F, 0x30, 0x1D, 0x02, 0x01, 0x00, 0x02, 0x02, 0x0C, 0xA1, 0x02, 0x01, 0x11, 0x02, 0x02,
      0x0A, 0xC1, 0x02, 0x01, 0x3D, 0x02, 0x01, 0x35, 0x02, 0x01, 0x35, 0x02, 0x01, 0x31, 0x02,
      0x01, 0x26]

theorem ofSecret_spellings_small :
    ofSecret ['T', '\t', 'Q', '='] = ofSecret ['T', 'Q', '='] ∧
      ofSecret ('M' :: '\n' :: (Base64.encode smallBytes).tail) = .ok smallKey ∧
      ofSecret ("\u2003".toList ++ Pem.document .crlf framedLabel smallBytes ++
        "\r\n".toList) = .ok smallKey := by
  have hkey : ofFramed? smallBytes = some smallKey := by decide +kernel
  have hsymbols : Base64.encode smallBytes = 'M' :: (Base64.encode smallBytes).tail := by
    decide +kernel
  refine ⟨?_, ?_, ?_⟩
  · apply ofSecret_spellings.1 ['T', 'Q', '=']
    · exact .keep _ (.blank rfl (.refl _))
    · decide
  · apply ofSecret_spellings.2 smallBytes _ _ hkey
    apply Spells.symbols
    rw [hsymbols]
    exact .keep _ (.blank rfl (.refl _))
  · apply ofSecret_spellings.2 smallBytes _ _ hkey
    exact .document .crlf (List.all_eq_true.1 (by decide)) (List.all_eq_true.1 (by decide))

end Rsa.PrivateKey

end OAuth
