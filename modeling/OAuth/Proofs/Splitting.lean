import OAuth.Proofs.Authorization
import OAuth.Text.Utf8

/-!
# Splitting at separators out of quotes

A header can be split in one pass over its characters, which keeps in mind whether it stands in
quotes, and how many bytes come before the part that it is in. Each part is then cut out of the
bytes, and that can be done between characters only. Main statements: `Utf8.slice?_append`, where
bytes can be cut; `Authorization.scan?_eq`, the pass never cuts within a character, and finds the
parts; `Authorization.splitFrom_eq_iff`, a text has one list of parts; and
`Authorization.parts_of_text`, what the parts are, counted in quotes.
-/

namespace OAuth

namespace Utf8

/-! ## Cutting bytes -/

/-- Whether a byte is the first of a character; all other bytes go on with one. -/
def isFirst (b : UInt8) : Bool := b.toNat < 0x80 || 0xC0 ≤ b.toNat

/-- Whether a number of bytes ends with a character: it is none, or all, or the next byte is the
first of a character. -/
def isBoundary (bytes : List UInt8) (offset : Nat) : Bool :=
  offset == 0 || match bytes[offset]? with
    | some b => isFirst b
    | none => offset == bytes.length

/-- The text of the bytes from one offset to another, unless these are out of order or within a
character. -/
def slice? (bytes : List UInt8) (start stop : Nat) : Option Text :=
  if start ≤ stop ∧ isBoundary bytes start ∧ isBoundary bytes stop then
    some (decode (bytes.extract start stop))
  else none

theorem isFirst_ofNat {n : Nat} (hn : n < 256) (h : n < 0x80 ∨ 0xC0 ≤ n) :
    isFirst (UInt8.ofNat n) = true := by
  simpa [isFirst, Nat.mod_eq_of_lt hn] using h

/-- The bytes of a character begin with a first one. -/
theorem exists_isFirst (c : Char) :
    ∃ b rest, String.utf8EncodeChar c = b :: rest ∧ isFirst b = true := by
  have hvalid : c.toNat < 0xD800 ∨ 0xDFFF < c.toNat ∧ c.toNat < 0x110000 := c.valid
  simp only [String.utf8EncodeChar, show c.val.toNat = c.toNat from rfl]
  generalize c.toNat = v at *
  split
  · exact ⟨_, _, rfl, isFirst_ofNat (by omega) (by omega)⟩
  split
  · exact ⟨_, _, rfl, isFirst_ofNat (by omega) (by omega)⟩
  split
  · exact ⟨_, _, rfl, isFirst_ofNat (by omega) (by omega)⟩
  · exact ⟨_, _, rfl, isFirst_ofNat (by omega) (by omega)⟩

/-- The bytes of a text end with a character, whatever text follows. -/
theorem isBoundary_append (front back : Text) :
    isBoundary (encode (front ++ back)) (encode front).length = true := by
  rw [encode_append]
  cases back with
  | nil => simp [isBoundary]
  | cons c back =>
    obtain ⟨b, rest, hbytes, hfirst⟩ := exists_isFirst c
    simp [isBoundary, hbytes, hfirst]

theorem length_encode_concat (s : Text) (c : Char) :
    (encode (s ++ [c])).length = (encode s).length + c.utf8Size := by
  simp [encode_append, String.length_utf8EncodeChar]

/-- **A text in the middle of another is cut out of its bytes.** -/
theorem slice?_append (front middle back : Text) :
    slice? (encode (front ++ middle ++ back)) (encode front).length
      (encode (front ++ middle)).length = some middle := by
  have hstart : isBoundary (encode (front ++ middle ++ back)) (encode front).length = true := by
    rw [List.append_assoc]
    exact isBoundary_append front (middle ++ back)
  have hstop := isBoundary_append (front ++ middle) back
  have hbytes : (encode (front ++ middle ++ back)).extract (encode front).length
      (encode (front ++ middle)).length = encode middle := by
    simp [encode_append, List.extract_eq_take_drop]
  have hle : (encode front).length ≤ (encode (front ++ middle)).length := by
    simp [encode_append]
  rw [slice?, if_pos ⟨hle, hstart, hstop⟩, hbytes, decode_encode]

end Utf8

namespace Authorization

/-! ## One pass -/

/-- The characters of a text, each with the number of bytes before it. -/
def offsets (start : Nat) : Text → List (Nat × Char)
  | [] => []
  | c :: s => (start, c) :: offsets (start + c.utf8Size) s

/-- Where a pass over a text stands. -/
structure Scan where
  /-- the parts that are complete -/
  parts : List Text := []
  /-- whether the pass stands in quotes -/
  quoted : Bool := false
  /-- the number of bytes before the part that it is in -/
  start : Nat := 0

/-- The pass after one more character of a text, unless a part cannot be cut out of the bytes. -/
def Scan.step? (sep : Char) (bytes : List UInt8) (scan : Scan) (char : Nat × Char) :
    Option Scan :=
  let (offset, c) := char
  if c = '"' then some { scan with quoted := !scan.quoted }
  else if c = sep ∧ scan.quoted = false then
    (Utf8.slice? bytes scan.start offset).map fun part =>
      { scan with parts := scan.parts ++ [part], start := offset + c.utf8Size }
  else some scan

/-- The parts that a pass over a text finds, unless one cannot be cut out of the bytes. -/
def scan? (sep : Char) (s : Text) : Option (List Text) := do
  let bytes := Utf8.encode s
  let scan ← (offsets 0 s).foldlM (Scan.step? sep bytes) {}
  let last ← Utf8.slice? bytes scan.start bytes.length
  return scan.parts ++ [last]

/-- What holds of a pass over a text in front of some other: the complete parts are followed by the
characters since the last separator that counts. -/
structure Scan.IsAt (sep : Char) (front part : Text) (scan : Scan) : Prop where
  /-- the part that the pass is in starts behind the complete ones -/
  start : scan.start = (Utf8.encode front).length
  /-- the parts of the whole, whatever follows -/
  found : ∀ back, splitUnquoted sep (front ++ part ++ back) =
    scan.parts ++ (splitFrom sep scan.quoted back).modifyHead (part ++ ·)

namespace Scan

variable {sep : Char} {front part : Text} {scan : Scan}

theorem isAt_nil (sep : Char) : IsAt sep [] [] {} where
  start := rfl
  found back := by
    obtain ⟨first, more, hparts⟩ := List.exists_cons_of_ne_nil (splitFrom_ne_nil sep false back)
    simp [splitUnquoted, hparts]

theorem step?_grow {c : Char} (h : c ≠ sep ∨ c = '"' ∨ scan.quoted = true) (bytes : List UInt8)
    (offset : Nat) : scan.step? sep bytes (offset, c) =
      some { scan with quoted := scan.quoted != (c == '"') } := by
  by_cases hquote : c = '"'
  · simp [step?, hquote]
  · have hsep : ¬ (c = sep ∧ scan.quoted = false) := by
      rintro ⟨rfl, hq⟩
      simp [hquote, hq] at h
    rw [beq_eq_false_iff_ne.2 hquote, Bool.bne_false]
    simp [step?, hquote, hsep]

theorem step?_close {bytes : List UInt8} {offset : Nat} (hsep : sep ≠ '"')
    (hq : scan.quoted = false) (hpart : Utf8.slice? bytes scan.start offset = some part) :
    scan.step? sep bytes (offset, sep) =
      some { scan with parts := scan.parts ++ [part], start := offset + sep.utf8Size } := by
  simp [step?, hsep, hq, hpart]

/-- A character that does not end the part belongs to it. -/
theorem IsAt.grow (h : scan.IsAt sep front part) {c : Char}
    (hc : c ≠ sep ∨ c = '"' ∨ scan.quoted = true) :
    IsAt sep front (part ++ [c]) { scan with quoted := scan.quoted != (c == '"') } where
  start := h.start
  found back := by
    have hfound := h.found (c :: back)
    rw [splitFrom_cons hc, List.modifyHead_modifyHead] at hfound
    simpa [Function.comp_def] using hfound

/-- A separator that counts ends the part. -/
theorem IsAt.close (h : scan.IsAt sep front part) (hsep : sep ≠ '"') (hq : scan.quoted = false) :
    IsAt sep (front ++ part ++ [sep]) []
      { scan with parts := scan.parts ++ [part]
                  start := (Utf8.encode (front ++ part)).length + sep.utf8Size } where
  start := (Utf8.length_encode_concat _ _).symm
  found back := by
    have hfound := h.found (sep :: back)
    obtain ⟨first, more, hparts⟩ := List.exists_cons_of_ne_nil (splitFrom_ne_nil sep false back)
    rw [hq, splitFrom_sep hsep, hparts] at hfound
    simpa [hq, hparts] using hfound

/-- **One more character is passed**, and none is cut. -/
theorem IsAt.step (h : scan.IsAt sep front part) (c : Char) (back : Text) :
    ∃ front' part' scan', front' ++ part' = front ++ part ++ [c] ∧
      scan.step? sep (Utf8.encode (front ++ part ++ c :: back))
        ((Utf8.encode (front ++ part)).length, c) = some scan' ∧
      scan'.IsAt sep front' part' := by
  by_cases hgrow : c ≠ sep ∨ c = '"' ∨ scan.quoted = true
  · exact ⟨front, part ++ [c], _, by simp, step?_grow hgrow _ _, h.grow hgrow⟩
  · simp only [not_or, Decidable.not_not, Bool.not_eq_true] at hgrow
    obtain ⟨rfl, hquote, hq⟩ := hgrow
    have hpart := Utf8.slice?_append front part (c :: back)
    rw [← h.start] at hpart
    exact ⟨front ++ part ++ [c], [], _, by simp, step?_close hquote hq hpart, h.close hquote hq⟩

/-- **All that follows is passed.** -/
theorem IsAt.run (h : scan.IsAt sep front part) (back : Text) :
    ∃ front' part' scan', front' ++ part' = front ++ part ++ back ∧
      (offsets (Utf8.encode (front ++ part)).length back).foldlM
        (step? sep (Utf8.encode (front ++ part ++ back))) scan = some scan' ∧
      scan'.IsAt sep front' part' := by
  induction back generalizing front part scan with
  | nil => exact ⟨front, part, scan, by simp, rfl, h⟩
  | cons c back ih =>
    obtain ⟨front', part', next, htext, hstep, hnext⟩ := h.step c back
    obtain ⟨front'', part'', last, htext', hrun, hlast⟩ := ih hnext
    have hwhole : front' ++ part' ++ back = front ++ part ++ c :: back := by
      simp [htext]
    rw [hwhole] at htext' hrun
    rw [htext, Utf8.length_encode_concat] at hrun
    refine ⟨front'', part'', last, htext', ?_, hlast⟩
    rw [offsets, List.foldlM_cons, hstep]
    exact hrun

end Scan

/-- **A pass over a text never cuts within a character, and finds its parts.** -/
theorem scan?_eq (sep : Char) (s : Text) : scan? sep s = some (splitUnquoted sep s) := by
  obtain ⟨front, part, scan, htext, hrun, hat⟩ := (Scan.isAt_nil sep).run s
  have hslice := Utf8.slice?_append front part []
  have hfound := hat.found []
  rw [List.append_nil, htext] at hslice hfound
  rw [← hat.start] at hslice
  have hlast : scan.parts ++ [part] = splitUnquoted sep s := by
    simpa [splitFrom] using hfound.symm
  simp only [List.nil_append, Utf8.encode_nil, List.length_nil] at hrun hslice
  simp [scan?, hrun, hslice, hlast]

example : scan? ',' "é=\"ü,\",€\",".toList = some ["é=\"ü,\"".toList, "€\",".toList] := by decide

/-! ## The parts of a text -/

/-- Whether all separators in a text that begins in or out of quotes are in quotes. -/
def IsWhole (sep : Char) (quoted : Bool) (s : Text) : Prop :=
  ∀ front back, s = front ++ sep :: back → quotedAfter quoted front = true

/-- Texts that begin in or out of quotes, and their parts. -/
inductive Splits (sep : Char) : Bool → Text → List Text → Prop where
  /-- a text without a separator that counts is the last part -/
  | last {quoted : Bool} {s : Text} (h : IsWhole sep quoted s) : Splits sep quoted s [s]
  /-- a part ends before a separator that counts -/
  | part {quoted : Bool} {s t : Text} {parts : List Text} (h : IsWhole sep quoted s)
    (hs : quotedAfter quoted s = false) (rest : Splits sep false t parts) :
    Splits sep quoted (s ++ sep :: t) (s :: parts)

/-- What the parts of a text are, counted in quotes. -/
structure IsSplit (sep : Char) (s : Text) (parts : List Text) : Prop where
  /-- there is a part -/
  ne_nil : parts ≠ []
  /-- nothing is lost -/
  join : Text.join [sep] parts = s
  /-- all parts but the last have an even number of quotes -/
  even : ∀ part ∈ parts.dropLast, part.count '"' % 2 = 0
  /-- before a separator in a part there is an odd number of quotes in that part -/
  odd : ∀ part ∈ parts, ∀ front back, part = front ++ sep :: back → front.count '"' % 2 = 1

/-- The number of separators in a text that an even number of quotes comes before. -/
def openSeparators (sep : Char) (s : Text) : Nat :=
  (List.range s.length).countP fun i => s[i]? = some sep ∧ (s.take i).count '"' % 2 = 0

/-- The number of separators out of quotes in a text that begins in or out of quotes. -/
def openFrom (sep : Char) (quoted : Bool) (s : Text) : Nat :=
  (List.range s.length).countP fun i => s[i]? = some sep ∧ quotedAfter quoted (s.take i) = false

variable {sep : Char} {quoted : Bool} {s : Text} {parts : List Text}

theorem isWhole_nil (sep : Char) (quoted : Bool) : IsWhole sep quoted [] := by
  intro front back h
  simp at h

theorem isWhole_cons {c : Char} : IsWhole sep quoted (c :: s) ↔
    (c ≠ sep ∨ quoted = true) ∧ IsWhole sep (quoted != (c == '"')) s := by
  constructor
  · refine fun h => ⟨?_, fun front back hs => h (c :: front) back (congrArg (c :: ·) hs)⟩
    by_cases hc : c = sep
    · exact .inr (h [] s (by rw [hc]; rfl))
    · exact .inl hc
  · rintro ⟨hc, h⟩ front back hs
    cases front with
    | nil =>
      obtain ⟨hsep, -⟩ := List.cons.inj hs
      exact hc.resolve_left fun hne => hne hsep
    | cons d front =>
      obtain ⟨rfl, hrest⟩ := List.cons.inj hs
      exact h front back hrest

theorem Splits.cons {c : Char} (hc : c ≠ sep ∨ quoted = true)
    (h : Splits sep (quoted != (c == '"')) s parts) :
    Splits sep quoted (c :: s) (parts.modifyHead (c :: ·)) := by
  cases h with
  | last h => exact .last (isWhole_cons.2 ⟨hc, h⟩)
  | part h hs rest => exact .part (isWhole_cons.2 ⟨hc, h⟩) hs rest

theorem splits_splitFrom (hsep : sep ≠ '"') (quoted : Bool) (s : Text) :
    Splits sep quoted s (splitFrom sep quoted s) := by
  induction s generalizing quoted with
  | nil => exact .last (isWhole_nil sep quoted)
  | cons c s ih =>
    by_cases hc : c ≠ sep ∨ quoted = true
    · rw [splitFrom_cons (hc.imp_right .inr)]
      exact (ih _).cons hc
    · simp only [not_or, Decidable.not_not, Bool.not_eq_true] at hc
      obtain ⟨rfl, rfl⟩ := hc
      rw [splitFrom_sep hsep]
      exact .part (isWhole_nil c false) rfl (ih false)

theorem splitFrom_of_isWhole (h : IsWhole sep quoted s) : splitFrom sep quoted s = [s] := by
  induction s generalizing quoted with
  | nil => rfl
  | cons c s ih =>
    obtain ⟨hc, h⟩ := isWhole_cons.1 h
    rw [splitFrom_cons (hc.imp_right .inr), ih h]
    rfl

/-- **A text has one list of parts.** -/
theorem splitFrom_eq_iff (hsep : sep ≠ '"') :
    splitFrom sep quoted s = parts ↔ Splits sep quoted s parts := by
  constructor
  · rintro rfl
    exact splits_splitFrom hsep quoted s
  · intro h
    induction h with
    | last h => exact splitFrom_of_isWhole h
    | part h hs rest ih =>
      rw [splitFrom_append_cons hsep hs, splitFrom_of_isWhole h, ih, List.singleton_append]

theorem quotedAfter_eq_true_iff {s : Text} : quotedAfter false s = true ↔ s.count '"' % 2 = 1 := by
  rw [← Bool.not_eq_false, ← Nat.mod_two_ne_zero]
  exact not_congr isBalanced_iff

theorem IsWhole.odd (h : IsWhole sep false s) : ∀ front back, s = front ++ sep :: back →
    front.count '"' % 2 = 1 := fun front back hs => quotedAfter_eq_true_iff.1 (h front back hs)

theorem join_cons (h : parts ≠ []) (part : Text) :
    Text.join [sep] (part :: parts) = part ++ sep :: Text.join [sep] parts := by
  rw [Text.join, List.intercalate_cons_of_ne_nil h, List.append_assoc, List.singleton_append,
    ← Text.join]

theorem Splits.isSplit : ∀ {s : Text} {parts : List Text}, Splits sep false s parts →
    IsSplit sep s parts
  | _, _, .last h => {
    ne_nil := by simp
    join := by simp [Text.join]
    even := by simp
    odd := List.forall_mem_singleton.2 h.odd }
  | _, _, .part h hs rest =>
    have ih := rest.isSplit
    { ne_nil := by simp
      join := by rw [join_cons ih.ne_nil, ih.join]
      even := by
        rw [List.dropLast_cons_of_ne_nil ih.ne_nil]
        exact List.forall_mem_cons.2 ⟨isBalanced_iff.1 hs, ih.even⟩
      odd := List.forall_mem_cons.2 ⟨h.odd, ih.odd⟩ }

theorem IsSplit.splits (h : IsSplit sep s parts) : Splits sep false s parts := by
  induction parts generalizing s with
  | nil => exact absurd rfl h.ne_nil
  | cons part parts ih =>
    have hodd := List.forall_mem_cons.1 h.odd
    have hwhole : IsWhole sep false part := fun front back hs =>
      quotedAfter_eq_true_iff.2 (hodd.1 front back hs)
    by_cases hparts : parts = []
    · subst hparts
      obtain rfl : part = s := by simpa [Text.join] using h.join
      exact .last hwhole
    · have heven := h.even
      rw [List.dropLast_cons_of_ne_nil hparts, List.forall_mem_cons] at heven
      rw [← h.join, join_cons hparts]
      exact .part hwhole (isBalanced_iff.2 heven.1) (ih ⟨hparts, rfl, heven.2, hodd.2⟩)

theorem openSeparators_eq (sep : Char) (s : Text) :
    openSeparators sep s = openFrom sep false s := by
  refine List.countP_congr fun i _ => ?_
  simp only [decide_eq_true_eq]
  exact and_congr_right fun _ => isBalanced_iff.symm

theorem openFrom_cons (sep : Char) (quoted : Bool) (c : Char) (s : Text) :
    openFrom sep quoted (c :: s) = openFrom sep (quoted != (c == '"')) s +
      if c = sep ∧ quoted = false then 1 else 0 := by
  rw [openFrom, List.length_cons, List.range_succ_eq_map, List.countP_cons, List.countP_map,
    openFrom]
  congr 1
  simp [quotedAfter]

/-- **There is one part more than there are separators out of quotes.** -/
theorem length_splitFrom (hsep : sep ≠ '"') (quoted : Bool) (s : Text) :
    (splitFrom sep quoted s).length = openFrom sep quoted s + 1 := by
  induction s generalizing quoted with
  | nil => rfl
  | cons c s ih =>
    rw [openFrom_cons]
    by_cases hc : c ≠ sep ∨ quoted = true
    · have hnot : ¬ (c = sep ∧ quoted = false) := by
        rintro ⟨rfl, rfl⟩
        simp at hc
      rw [splitFrom_cons (hc.imp_right .inr), List.length_modifyHead, ih, if_neg hnot]
    · simp only [not_or, Decidable.not_not, Bool.not_eq_true] at hc
      obtain ⟨rfl, rfl⟩ := hc
      rw [splitFrom_sep hsep, List.length_cons, ih, beq_eq_false_iff_ne.2 hsep, Bool.bne_false,
        if_pos ⟨rfl, rfl⟩]

/-- **The parts of a text are those that its separators out of quotes make of it.** -/
theorem parts_of_text (s : Text) :
    scan? ',' s = some (splitUnquoted ',' s) ∧
      IsSplit ',' s (splitUnquoted ',' s) ∧
      (∀ parts, IsSplit ',' s parts → parts = splitUnquoted ',' s) ∧
      (splitUnquoted ',' s).length = openSeparators ',' s + 1 := by
  have hsep : (',' : Char) ≠ '"' := by decide
  refine ⟨scan?_eq ',' s, (splits_splitFrom hsep false s).isSplit, fun parts h => ?_, ?_⟩
  · exact ((splitFrom_eq_iff hsep).2 h.splits).symm
  · rw [openSeparators_eq]
    exact length_splitFrom hsep false s

end Authorization

end OAuth
