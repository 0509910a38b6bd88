import OAuth.Authorization
import OAuth.Proofs.Written

/-!
# Reading authorization headers back

A comma ends an element unless it stands in quotes, so what matters of a text before a comma is
whether its quotes are balanced. Main statements: `Authorization.elements_append`, the elements
on both sides of such a comma are all the elements, and `Authorization.read?_write`, the pairs of
a written header are read back.
-/

namespace OAuth.Authorization

/-! ## Quotes -/

/-- Whether a place is in quotes, after a text that begins in or out of quotes. -/
def quotedAfter (quoted : Bool) (s : Text) : Bool := s.foldl (fun q c => q != (c == '"')) quoted

/-- Texts that end out of quotes if they begin out of quotes. -/
def IsBalanced (s : Text) : Prop := quotedAfter false s = false

instance (s : Text) : Decidable (IsBalanced s) := inferInstanceAs (Decidable (_ = _))

theorem quotedAfter_cons (quoted : Bool) (c : Char) (s : Text) :
    quotedAfter quoted (c :: s) = quotedAfter (quoted != (c == '"')) s := rfl

theorem quotedAfter_of_not_mem {s : Text} (h : '"' ∉ s) (quoted : Bool) :
    quotedAfter quoted s = quoted := by
  induction s generalizing quoted with
  | nil => rfl
  | cons c s ih =>
    simp only [List.mem_cons, not_or] at h
    have hc : (c == '"') = false := beq_eq_false_iff_ne.2 (Ne.symm h.1)
    rw [quotedAfter_cons, hc, Bool.bne_false, ih h.2]

/-- Quotes are balanced if their number is even. -/
theorem isBalanced_iff {s : Text} : IsBalanced s ↔ s.count '"' % 2 = 0 := by
  have parity : ∀ (quoted : Bool) (s : Text),
      quotedAfter quoted s = (quoted != (s.count '"' % 2 == 1)) := by
    intro quoted s
    induction s generalizing quoted with
    | nil => simp [quotedAfter]
    | cons c s ih =>
      rw [quotedAfter_cons, ih, List.count_cons]
      by_cases hc : c = '"'
      · subst hc
        rcases Nat.mod_two_eq_zero_or_one (s.count '"') with h | h
        · cases quoted <;> simp [h, Nat.add_mod]
        · cases quoted <;> simp [h, Nat.add_mod]
      · simp [beq_eq_false_iff_ne.2 hc]
  rw [IsBalanced, parity]
  rcases Nat.mod_two_eq_zero_or_one (s.count '"') with h | h <;> simp [h]

theorem isBalanced_of_not_mem {s : Text} (h : '"' ∉ s) : IsBalanced s := quotedAfter_of_not_mem h _

/-! ## Parts -/

theorem splitFrom_cons {sep c : Char} {quoted : Bool} (h : c ≠ sep ∨ c = '"' ∨ quoted = true)
    (s : Text) : splitFrom sep quoted (c :: s) =
      (splitFrom sep (quoted != (c == '"')) s).modifyHead (c :: ·) := by
  by_cases hc : c = '"'
  · subst hc
    simp only [splitFrom, ↓reduceIte, beq_self_eq_true, Bool.bne_true]
    cases hs : splitFrom sep (!quoted) s with
    | nil => exact absurd hs (splitFrom_ne_nil sep _ s)
    | cons part more => rfl
  · have hsep : ¬ (c = sep ∧ quoted = false) := by
      rintro ⟨rfl, rfl⟩
      simp [hc] at h
    simp only [splitFrom, hc, hsep, ↓reduceIte, beq_eq_false_iff_ne.2 hc, Bool.bne_false]
    cases hs : splitFrom sep quoted s with
    | nil => exact absurd hs (splitFrom_ne_nil sep _ s)
    | cons part more => rfl

theorem splitFrom_sep {sep : Char} (h : sep ≠ '"') (s : Text) :
    splitFrom sep false (sep :: s) = [] :: splitFrom sep false s := by
  simp [splitFrom, h]

/-- A text without quotes, and without a separator that counts, belongs to the first part. -/
theorem splitFrom_append_of_not_mem {sep : Char} {quoted : Bool} {s : Text} (hquote : '"' ∉ s)
    (hsep : sep ∉ s ∨ quoted = true) (t : Text) :
    splitFrom sep quoted (s ++ t) = (splitFrom sep quoted t).modifyHead (s ++ ·) := by
  induction s with
  | nil =>
    obtain ⟨part, more, hparts⟩ := List.exists_cons_of_ne_nil (splitFrom_ne_nil sep quoted t)
    simp [hparts]
  | cons c s ih =>
    simp only [List.mem_cons, not_or] at hquote hsep
    have hc : (c == '"') = false := beq_eq_false_iff_ne.2 (Ne.symm hquote.1)
    have hnext : c ≠ sep ∨ c = '"' ∨ quoted = true := by
      rcases hsep with hsep | hq
      · exact .inl (Ne.symm hsep.1)
      · exact .inr (.inr hq)
    obtain ⟨part, more, hparts⟩ := List.exists_cons_of_ne_nil (splitFrom_ne_nil sep quoted t)
    rw [List.cons_append, splitFrom_cons hnext, hc, Bool.bne_false,
      ih hquote.2 (hsep.imp And.right id), hparts]
    rfl

/-- **The parts on both sides of a separator are all the parts** if it is out of quotes. -/
theorem splitFrom_append_cons {sep : Char} (hsep : sep ≠ '"') {quoted : Bool} {s : Text}
    (h : quotedAfter quoted s = false) (t : Text) :
    splitFrom sep quoted (s ++ sep :: t) = splitFrom sep quoted s ++ splitFrom sep false t := by
  -- by induction from the front: each quote swaps what the rest has to balance
  induction s generalizing quoted with
  | nil =>
    obtain rfl : quoted = false := h
    exact splitFrom_sep hsep t
  | cons c s ih =>
    rw [quotedAfter_cons] at h
    by_cases hc : c ≠ sep ∨ c = '"' ∨ quoted = true
    · obtain ⟨part, more, hparts⟩ :=
        List.exists_cons_of_ne_nil (splitFrom_ne_nil sep (quoted != (c == '"')) s)
      rw [List.cons_append, splitFrom_cons hc, ih h, splitFrom_cons hc, hparts]
      rfl
    · simp only [not_or, Decidable.not_not, Bool.not_eq_true] at hc
      obtain ⟨rfl, -, rfl⟩ := hc
      rw [beq_eq_false_iff_ne.2 hsep, Bool.bne_false] at h
      rw [List.cons_append, splitFrom_sep hsep, splitFrom_sep hsep, ih h, List.cons_append]

/-! ## Elements -/

/-- The elements on both sides of a comma are all the elements if it is out of quotes. -/
theorem elements_append {s : Text} (h : IsBalanced s) (t : Text) :
    elements (s ++ ',' :: t) = elements s ++ elements t := by
  rw [elements, splitUnquoted, splitFrom_append_cons (by decide) h, List.map_append,
    List.filter_append, elements, elements, splitUnquoted, splitUnquoted]

/-- A space before the elements does not count. -/
theorem elements_space (s : Text) : elements (' ' :: s) = elements s := by
  have hspace : Text.isBlank ' ' = true := by decide
  obtain ⟨part, more, hparts⟩ := List.exists_cons_of_ne_nil (splitFrom_ne_nil ',' false s)
  have htrim : Text.trim (' ' :: part) = Text.trim part := by
    simp [Text.trim, Text.trimStart, hspace]
  rw [elements, elements, splitUnquoted, splitUnquoted, splitFrom_cons (.inl (by decide)),
    show (false != (' ' == '"')) = false by decide, hparts, List.modifyHead_cons, List.map_cons,
    List.map_cons, htrim]

/-- Keys that can be read back: not empty, and of unreserved characters only. -/
def IsKey (key : Text) : Prop := key ≠ [] ∧ ∀ c ∈ key, Percent.isUnreserved c = true

instance (key : Text) : Decidable (IsKey key) :=
  @instDecidableAnd _ _ inferInstance (List.decidableBAll _ key)

theorem IsKey.not_mem {key : Text} (h : IsKey key) {c : Char}
    (hc : Percent.isUnreserved c = false) : c ∉ key := fun hmem =>
  Percent.isUnreserved_ne (h.2 c hmem) hc rfl

theorem IsKey.isEncoded {key : Text} (h : IsKey key) {c : Char} (hc : c ∈ key) :
    Percent.isEncoded c = true := by
  simp [Percent.isEncoded, h.2 c hc]

/-- The text of a pair is as it is when blanks around it are taken away. -/
theorem trim_headerText {pair : Pair} (h : IsKey pair.1) :
    Text.trim pair.headerText = pair.headerText := by
  obtain ⟨key, value⟩ := pair
  obtain ⟨c, key, rfl⟩ := List.exists_cons_of_ne_nil h.1
  have hc : Text.isBlank c = false := Percent.isBlank_of_isEncoded (h.isEncoded List.mem_cons_self)
  have hstart : Text.trimStart (Pair.headerText (c :: key, value)) =
      Pair.headerText (c :: key, value) := Text.trimStart_eq_self hc
  have hend : Pair.headerText (c :: key, value) = (c :: key ++ '=' :: '"' :: value) ++ ['"'] := by
    simp [Pair.headerText]
  rw [Text.trim, hstart, hend, Text.trimEnd_eq_self (by decide)]

/-- **A pair is read back from its text**, whatever its value. -/
theorem readElement_headerText {pair : Pair} (h : IsKey pair.1) :
    readElement pair.headerText = pair := by
  obtain ⟨key, value⟩ := pair
  have hcut : Text.cut? '=' (Pair.headerText (key, value)) = some (key, '"' :: (value ++ ['"'])) :=
    Text.cut?_append_cons (h.not_mem (by decide)) _
  have hkey : Text.trim key = key :=
    Text.trim_eq_self fun c hc => Percent.isBlank_of_isEncoded (h.isEncoded hc)
  have hvalue : Text.trim ('"' :: (value ++ ['"'])) = '"' :: (value ++ ['"']) := by
    rw [Text.trim, Text.trimStart_eq_self (by decide), ← List.cons_append,
      Text.trimEnd_eq_self (by decide)]
  have hbefore : Text.before? ['"'] (value ++ ['"']) = some value := Text.before?_eq_some.2 rfl
  have hunquote : unquote ('"' :: (value ++ ['"'])) = value := by
    simp [unquote, Text.after?, hbefore]
  rw [readElement, hcut]
  simp only [hkey, hvalue, hunquote]

/-- A pair whose value has balanced quotes ends out of quotes. -/
theorem isBalanced_headerText {pair : Pair} (h : IsKey pair.1) (hvalue : IsBalanced pair.2) :
    IsBalanced pair.headerText := by
  obtain ⟨key, value⟩ := pair
  have hkey : '"' ∉ key := h.not_mem (by decide)
  -- the quotes around the value swap what is in and out of quotes, and swap it back
  have hcount : (Pair.headerText (key, value)).count '"' = value.count '"' + 2 := by
    simp [Pair.headerText, List.count_append, List.count_eq_zero.2 hkey]
  have hvalue : value.count '"' % 2 = 0 := isBalanced_iff.1 hvalue
  rw [isBalanced_iff, hcount]
  omega

/-- A pair without quotes in its value is one element. -/
theorem elements_headerText {pair : Pair} (h : IsKey pair.1) (hvalue : '"' ∉ pair.2) :
    elements pair.headerText = [pair.headerText] := by
  have htrim := trim_headerText h
  obtain ⟨key, value⟩ := pair
  have hquoted : splitFrom ',' true (value ++ ['"']) = [value ++ ['"']] := by
    rw [splitFrom_append_of_not_mem hvalue (.inr rfl)]
    rfl
  have hsplit : splitUnquoted ',' (Pair.headerText (key, value)) =
      [Pair.headerText (key, value)] := by
    rw [splitUnquoted, Pair.headerText,
      splitFrom_append_of_not_mem (h.not_mem (by decide)) (.inl (h.not_mem (by decide))),
      splitFrom_cons (.inl (by decide)), splitFrom_cons (.inl (by decide)),
      show ((false != ('=' == '"')) != ('"' == '"')) = true by decide, hquoted]
    rfl
  rw [elements, hsplit, List.map_singleton, htrim]
  simp [Pair.headerText]

/-- The first of some written pairs comes before the elements of the others, if its value has
balanced quotes. -/
theorem elements_join_cons {pair : Pair} (h : IsKey pair.1) (hvalue : IsBalanced pair.2)
    {texts : List Text} (htexts : texts ≠ []) :
    elements (Text.join [',', ' '] (pair.headerText :: texts)) =
      elements pair.headerText ++ elements (Text.join [',', ' '] texts) := by
  rw [Text.join, List.intercalate_cons_of_ne_nil htexts, List.append_assoc, List.cons_append,
    List.singleton_append, elements_append (isBalanced_headerText h hvalue), elements_space,
    ← Text.join]

/-- The elements of written pairs are their texts. -/
theorem elements_join {pairs : List Pair} (h : ∀ pair ∈ pairs, IsKey pair.1 ∧ '"' ∉ pair.2) :
    elements (Text.join [',', ' '] (pairs.map Pair.headerText)) = pairs.map Pair.headerText := by
  induction pairs with
  | nil => rfl
  | cons pair pairs ih =>
    obtain ⟨hkey, hvalue⟩ := h pair List.mem_cons_self
    have ih := ih fun q hq => h q (List.mem_cons_of_mem _ hq)
    by_cases hempty : pairs = []
    · subst hempty
      simpa [Text.join] using elements_headerText hkey hvalue
    · have hne : pairs.map Pair.headerText ≠ [] := by simpa using hempty
      rw [List.map_cons, elements_join_cons hkey (isBalanced_of_not_mem hvalue) hne, ih,
        elements_headerText hkey hvalue, List.singleton_append]

/-! ## Headers -/

theorem schemeAndRest_write (texts : List Text) :
    schemeAndRest (write texts) = (scheme, Text.join [',', ' '] texts) := by
  have hstart : Text.trimStart (write texts) = write texts := Text.trimStart_eq_self (by decide)
  have hcut : Text.cut? ' ' (write texts) = some (scheme, Text.join [',', ' '] texts) :=
    Text.cut?_append_cons (by decide) _
  rw [schemeAndRest, hstart, hcut, Option.getD_some]

theorem read?_write_texts (texts : List Text) :
    read? (write texts) = some ((elements (Text.join [',', ' '] texts)).map readElement) := by
  have hname : Text.sameLetters scheme scheme = true := by decide
  rw [read?, schemeAndRest_write]
  simp only [hname, ↓reduceIte]

/-- **The pairs of a written header are read back**, if no value has quotes. -/
theorem read?_write {pairs : List Pair} (h : ∀ pair ∈ pairs, IsKey pair.1 ∧ '"' ∉ pair.2) :
    read? (write (pairs.map Pair.headerText)) = some pairs := by
  rw [read?_write_texts, elements_join h, List.map_map]
  exact congrArg some ((List.map_congr_left fun pair hpair =>
    readElement_headerText (h pair hpair).1).trans (List.map_id _))

/-- The pairs behind the first one are read back, if only the first has quotes in its value, and
they are balanced. -/
theorem read?_write_cons {first : Pair} (hkey : IsKey first.1) (hvalue : IsBalanced first.2)
    {pairs : List Pair} (hpairs : pairs ≠ []) (h : ∀ pair ∈ pairs, IsKey pair.1 ∧ '"' ∉ pair.2) :
    read? (write ((first :: pairs).map Pair.headerText)) =
      some ((elements first.headerText).map readElement ++ pairs) := by
  rw [read?_write_texts, List.map_cons, elements_join_cons hkey hvalue (by simpa using hpairs),
    elements_join h, List.map_append, List.map_map]
  exact congrArg (fun read => some (_ ++ read)) ((List.map_congr_left fun pair hpair =>
    readElement_headerText (h pair hpair).1).trans (List.map_id _))

/-! ## Characters of what is read -/

theorem unquote_subset (value : Text) : unquote value ⊆ value := by
  unfold unquote
  cases hafter : Text.after? ['"'] value with
  | none => exact fun c hc => hc
  | some rest =>
    obtain rfl := Text.after?_eq_some.1 hafter
    cases hbefore : Text.before? ['"'] rest with
    | none =>
      rw [Option.bind_some, hbefore]
      exact fun c hc => hc
    | some inner =>
      obtain rfl := Text.before?_eq_some.1 hbefore
      rw [Option.bind_some, hbefore]
      exact fun c hc => List.mem_append_right _ (List.mem_append_left _ hc)

theorem readElement_snd_subset (element : Text) : (readElement element).2 ⊆ element := by
  unfold readElement
  cases hcut : Text.cut? '=' element with
  | none => exact fun c hc => absurd hc List.not_mem_nil
  | some cut =>
    obtain ⟨key, value⟩ := cut
    exact fun c hc => Text.subset_of_cut? hcut (Text.trim_subset value (unquote_subset _ hc))

theorem subset_of_mem_elements {s element : Text} (h : element ∈ elements s) : element ⊆ s := by
  rw [elements, List.mem_filter, List.mem_map] at h
  obtain ⟨⟨part, hpart, rfl⟩, -⟩ := h
  intro c hc
  rw [← join_splitUnquoted ',' s]
  exact Text.mem_join_of_mem hpart (Text.trim_subset part hc)

theorem schemeAndRest_snd_subset (header : Text) : (schemeAndRest header).2 ⊆ header := by
  change ((Text.cut? ' ' (Text.trimStart header)).getD (Text.trimStart header, [])).2 ⊆ header
  cases hcut : Text.cut? ' ' (Text.trimStart header) with
  | none => exact fun c hc => absurd hc List.not_mem_nil
  | some cut => exact fun c hc => Text.trimStart_subset header (Text.subset_of_cut? hcut hc)

/-- **The values that are read of a header are made of its characters.** -/
theorem subset_of_read? {header : Text} {pairs : List Pair} (h : read? header = some pairs)
    {pair : Pair} (hpair : pair ∈ pairs) : pair.2 ⊆ header := by
  have hrest := schemeAndRest_snd_subset header
  rw [read?] at h
  generalize schemeAndRest header = parts at h hrest
  obtain ⟨name, rest⟩ := parts
  dsimp only at h
  split at h
  · obtain rfl := Option.some.inj h
    obtain ⟨element, helement, rfl⟩ := List.mem_map.1 hpair
    intro c hc
    exact hrest (subset_of_mem_elements helement (readElement_snd_subset element hc))
  · cases h

end OAuth.Authorization
