import Mathlib.Data.List.Chain
import Mathlib.Data.List.Nodup
import Mathlib.Data.Nat.Bitwise
import OAuth.Unicode.Normal

/-!
# Normal forms are normal

A text in composed normal form is its own normal form (`Unicode.normal_normal`): to take it apart
gives back the ordered text that it was composed of. This rests on what the table of composites
says of itself: no mark can be taken apart, and no composite is nested deeper than it is followed.

A character of ASCII takes no part in composition, so a dot parts a text in normal form into texts
in normal form (`Unicode.normal_eq_of_dot`).
-/

-- the tables are long lists
set_option maxRecDepth 20000

namespace OAuth.Unicode

/-! ## Sets of code points

The table is checked against sets of its own code points. A set is the bits of a number, so that
membership is not a search. -/

/-- A set of numbers as the bits of one number. -/
def bits (ns : List Nat) : Nat := ns.foldr (fun n set => set ||| 1 <<< n) 0

theorem testBit_bits {ns : List Nat} {n : Nat} : (bits ns).testBit n = true ↔ n ∈ ns := by
  induction ns with
  | nil => simp [bits]
  | cons m ns ih =>
    have hbits : bits (m :: ns) = bits ns ||| 2 ^ m := by
      rw [bits, List.foldr_cons, Nat.shiftLeft_eq, Nat.one_mul]
      rfl
    rw [hbits, Nat.testBit_or, Bool.or_eq_true, ih, Nat.testBit_two_pow, decide_eq_true_eq,
      List.mem_cons]
    tauto

/-! ## What the table says of itself -/

/-- Whether a code point is a letter or a syllable of Hangul. -/
def isHangul (n : Nat) : Bool :=
  (leads ≤ n && n < 0x1200) || (syllables ≤ n && n < syllables + 19 * 21 * 28)

/-- The code points of composites. -/
def codes (entries : List (Nat × Nat × Nat)) : List Nat := entries.map Prod.fst

/-- The composites that are nested deeper than this. -/
def nested : (depth : Nat) → List (Nat × Nat × Nat)
  | 0 => composites
  | depth + 1 => composites.filter fun entry => (bits (codes (nested depth))).testBit entry.2.1

theorem nested_three : nested 3 = [] := by decide +kernel

theorem sorted_codes : (codes composites).IsChain (· < ·) := by decide +kernel

/-- The code points that bases and marks are not. -/
theorem composites_sound : ∀ entry ∈ composites,
    (0x80 ≤ entry.1 ∧ entry.1.isValidChar ∧ isHangul entry.1 = false) ∧
    (0x30 ≤ entry.2.1 ∧ entry.2.1.isValidChar ∧ isHangul entry.2.1 = false) ∧
    (0x80 ≤ entry.2.2 ∧ entry.2.2.isValidChar ∧ isHangul entry.2.2 = false ∧
      (bits (codes composites)).testBit entry.2.2 = false) := by
  decide +kernel

variable {c d : Char}

theorem toNat_ofNat {n : Nat} (h : n.isValidChar) : (Char.ofNat n).toNat = n := by
  rw [Char.ofNat, dif_pos h]
  rfl

/-- A composite is in the table once. -/
theorem eq_of_mem_composites {code : Nat} {parts parts' : Nat × Nat}
    (h : (code, parts) ∈ composites) (h' : (code, parts') ∈ composites) : parts = parts' := by
  have hnodup : (codes composites).Nodup :=
    (List.isChain_iff_pairwise.1 sorted_codes).imp fun hlt => Nat.ne_of_lt hlt
  exact (Prod.mk.inj (List.inj_on_of_nodup_map hnodup h h' rfl)).2

/-- What the table says of a character is an entry of its own. -/
theorem find?_compositeTable_eq_some {parts : Char × Char} :
    compositeTable.find? c.toNat = some parts ↔ ∃ base mark,
      (c.toNat, base, mark) ∈ composites ∧ parts = (Char.ofNat base, Char.ofNat mark) := by
  have entry : ∀ {parts}, compositeTable.find? c.toNat = some parts → ∃ base mark,
      (c.toNat, base, mark) ∈ composites ∧ parts = (Char.ofNat base, Char.ofNat mark) := by
    intro parts h
    obtain ⟨span, hmem, hspan⟩ := Table.find?_eq_some h
    obtain ⟨⟨code, base, mark⟩, hentry, heq⟩ := List.mem_map.1 hmem
    obtain ⟨rfl, rfl⟩ := Prod.mk.inj heq
    obtain rfl : code = c.toNat := by
      simp only [Span.contains, Bool.and_eq_true, decide_eq_true_eq] at hspan
      omega
    exact ⟨base, mark, hentry, rfl⟩
  refine ⟨entry, ?_⟩
  rintro ⟨base, mark, hmem, rfl⟩
  cases hfind : compositeTable.find? c.toNat with
  | none =>
    simp only [Table.find?, Option.map_eq_none_iff, List.find?_eq_none] at hfind
    refine absurd ?_ (hfind _ (List.mem_map_of_mem hmem))
    simp [Span.contains]
  | some parts =>
    obtain ⟨base', mark', hmem', rfl⟩ := entry hfind
    obtain ⟨rfl, rfl⟩ := Prod.mk.inj (eq_of_mem_composites hmem hmem')
    rfl

theorem find?_compositeTable_eq_none (h : c.toNat ∉ codes composites) :
    compositeTable.find? c.toNat = none := by
  cases hfind : compositeTable.find? c.toNat with
  | none => rfl
  | some parts =>
    obtain ⟨base, mark, hmem, -⟩ := find?_compositeTable_eq_some.1 hfind
    exact absurd (List.mem_map_of_mem hmem) h

/-! ## Taking apart -/

/-- Characters that cannot be taken apart. -/
def IsWhole (c : Char) : Prop := decomposeChar c = [c]

theorem syllableLetters?_eq_none (h : isHangul c.toNat = false) : syllableLetters? c = none := by
  rw [syllableLetters?, if_neg]
  rintro hrange
  simp only [isHangul, Bool.or_eq_false_iff, Bool.and_eq_false_iff, decide_eq_false_iff_not] at h
  omega

theorem decomposeWithin_of_not_mem (h : c.toNat ∉ codes composites) (depth : Nat) :
    decomposeWithin depth c = [c] := by
  cases depth with
  | zero => rfl
  | succ depth => rw [decomposeWithin, find?_compositeTable_eq_none h]

/-- What is not nested deeper is taken apart in so many steps. -/
theorem decomposeWithin_succ {depth : Nat} (h : c.toNat ∉ codes (nested depth)) :
    decomposeWithin (depth + 1) c = decomposeWithin depth c := by
  induction depth generalizing c with
  | zero => exact decomposeWithin_of_not_mem h _
  | succ depth ih =>
    rw [decomposeWithin, decomposeWithin]
    cases hfind : compositeTable.find? c.toNat with
    | none => rfl
    | some parts =>
      obtain ⟨base, mark, hmem, rfl⟩ := find?_compositeTable_eq_some.1 hfind
      have hbase : (Char.ofNat base).toNat = base :=
        toNat_ofNat (composites_sound _ hmem).2.1.2.1
      have hnested : (Char.ofNat base).toNat ∉ codes (nested depth) := by
        rw [hbase]
        intro hdeep
        exact h (List.mem_map.2 ⟨_, List.mem_filter.2 ⟨hmem, testBit_bits.2 hdeep⟩, rfl⟩)
      dsimp only
      rw [ih hnested]

/-- **A composite is its base, taken apart, and its mark.** -/
theorem decomposeChar_of_mem {base mark : Nat} (h : (c.toNat, base, mark) ∈ composites) :
    decomposeChar c = decomposeChar (Char.ofNat base) ++ [Char.ofNat mark] := by
  obtain ⟨⟨-, -, hcode⟩, ⟨-, hvalid, hbase⟩, -⟩ := composites_sound _ h
  have hlast : (Char.ofNat base).toNat ∉ codes (nested 3) := by
    rw [nested_three]
    exact List.not_mem_nil
  rw [← toNat_ofNat hvalid] at hbase
  rw [decomposeChar, syllableLetters?_eq_none hcode, decomposeChar, syllableLetters?_eq_none hbase]
  dsimp only
  rw [decomposeWithin_succ hlast, decomposeWithin,
    find?_compositeTable_eq_some.2 ⟨base, mark, h, rfl⟩]

theorem isWhole_of_not_mem (h : c.toNat ∉ codes composites) (hnone : syllableLetters? c = none) :
    IsWhole c := by
  rw [IsWhole, decomposeChar, hnone]
  exact decomposeWithin_of_not_mem h 4

/-- No letter of Hangul is a composite. -/
theorem not_mem_codes_of_isHangul {n : Nat} (h : isHangul n = true) : n ∉ codes composites := by
  intro hmem
  obtain ⟨⟨code, parts⟩, hentry, rfl⟩ := List.mem_map.1 hmem
  exact absurd h (by simp [(composites_sound _ hentry).1.2.2])

/-- The letters of Hangul are whole. -/
theorem isWhole_of_letter {n : Nat} (h : leads ≤ n) (h' : n < 0x1200) :
    IsWhole (Char.ofNat n) := by
  simp only [leads] at h
  have hn : (Char.ofNat n).toNat = n := toNat_ofNat (.inl (by omega))
  refine isWhole_of_not_mem ?_ ?_
  · rw [hn]
    exact not_mem_codes_of_isHangul (by simp [isHangul, leads, h, h'])
  · rw [syllableLetters?, hn, if_neg]
    simp only [syllables]
    omega

theorem isWhole_of_mem_decomposeWithin {depth : Nat} (h : c.toNat ∉ codes (nested depth))
    (hnone : syllableLetters? c = none) (hd : d ∈ decomposeWithin depth c) : IsWhole d := by
  induction depth generalizing c with
  | zero =>
    obtain rfl := List.mem_singleton.1 hd
    exact isWhole_of_not_mem h hnone
  | succ depth ih =>
    rw [decomposeWithin] at hd
    cases hfind : compositeTable.find? c.toNat with
    | none =>
      simp only [hfind, List.mem_singleton] at hd
      subst hd
      refine isWhole_of_not_mem (fun hmem => ?_) hnone
      obtain ⟨⟨code, base, mark⟩, hentry, rfl⟩ := List.mem_map.1 hmem
      rw [find?_compositeTable_eq_some.2 ⟨base, mark, hentry, rfl⟩] at hfind
      cases hfind
    | some parts =>
      obtain ⟨base, mark, hmem, rfl⟩ := find?_compositeTable_eq_some.1 hfind
      obtain ⟨-, ⟨-, hbase, hhangul⟩, -, hmark, hhangul', hcode⟩ := composites_sound _ hmem
      rw [← toNat_ofNat hbase] at hhangul
      rw [← toNat_ofNat hmark] at hhangul'
      simp only [hfind, List.mem_append, List.mem_singleton] at hd
      rcases hd with hd | rfl
      · refine ih (fun hdeep => ?_) (syllableLetters?_eq_none hhangul) hd
        rw [toNat_ofNat hbase] at hdeep
        exact h (List.mem_map.2 ⟨_, List.mem_filter.2 ⟨hmem, testBit_bits.2 hdeep⟩, rfl⟩)
      · refine isWhole_of_not_mem (fun hmem => ?_) (syllableLetters?_eq_none hhangul')
        rw [toNat_ofNat hmark, ← testBit_bits, hcode] at hmem
        cases hmem

/-- The letters of a syllable are letters of Hangul. -/
theorem exists_of_mem_syllableLetters? {letters : Text} (h : syllableLetters? c = some letters)
    (hd : d ∈ letters) : ∃ n, leads ≤ n ∧ n < 0x1200 ∧ d = Char.ofNat n := by
  rw [syllableLetters?] at h
  split at h
  · next hrange =>
    have hlead : (c.toNat - syllables) / (21 * 28) < 19 := by omega
    have hvowel : (c.toNat - syllables) / 28 % 21 < 21 := Nat.mod_lt _ (by decide)
    have htrail : (c.toNat - syllables) % 28 < 28 := Nat.mod_lt _ (by decide)
    have hletter : d = Char.ofNat (leads + (c.toNat - syllables) / (21 * 28)) ∨
        d = Char.ofNat (vowels + (c.toNat - syllables) / 28 % 21) ∨
        d = Char.ofNat (trails + (c.toNat - syllables) % 28) := by
      dsimp only at h
      split at h
      · obtain rfl := Option.some.inj h
        simp only [List.mem_cons, List.not_mem_nil, or_false] at hd
        exact hd.imp_right .inl
      · obtain rfl := Option.some.inj h
        simp only [List.mem_append, List.mem_cons, List.not_mem_nil, or_false] at hd
        exact or_assoc.1 hd
    have hleads : leads = 0x1100 := rfl
    have hvowels : vowels = 0x1161 := rfl
    have htrails : trails = 0x11A7 := rfl
    rcases hletter with hd | hd | hd
    · exact ⟨leads + (c.toNat - syllables) / (21 * 28), by omega, by omega, hd⟩
    · exact ⟨vowels + (c.toNat - syllables) / 28 % 21, by omega, by omega, hd⟩
    · exact ⟨trails + (c.toNat - syllables) % 28, by omega, by omega, hd⟩
  · cases h

/-- **What a character is taken apart into is whole.** -/
theorem isWhole_of_mem_decomposeChar (hd : d ∈ decomposeChar c) : IsWhole d := by
  rw [decomposeChar] at hd
  split at hd
  · next letters hletters =>
    obtain ⟨n, hlow, hhigh, rfl⟩ := exists_of_mem_syllableLetters? hletters hd
    exact isWhole_of_letter hlow hhigh
  · next hnone =>
    have hlast : c.toNat ∉ codes (nested 3) := by
      rw [nested_three]
      exact List.not_mem_nil
    rw [decomposeWithin_succ hlast] at hd
    exact isWhole_of_mem_decomposeWithin hlast hnone hd

/-- A syllable is taken apart into its letters. -/
theorem decomposeChar_of_syllable? {a b : Char} (h : syllable? a b = some c) :
    decomposeChar c = decomposeChar a ++ [b] := by
  have hleads : leads = 0x1100 := rfl
  have hvowels : vowels = 0x1161 := rfl
  have htrails : trails = 0x11A7 := rfl
  have hsyllables : syllables = 0xAC00 := rfl
  have hback : ∀ (n : Nat) (d : Char), n = d.toNat → Char.ofNat n = d := by
    rintro _ d rfl
    exact Char.ofNat_toNat d
  rw [syllable?] at h
  split at h
  · next hrange =>
    -- an open syllable of a consonant and a vowel
    obtain rfl := Option.some.inj h
    have hwhole : IsWhole a := by
      rw [← Char.ofNat_toNat a]
      exact isWhole_of_letter hrange.1 (by omega)
    have hc : (Char.ofNat (syllables + ((a.toNat - leads) * 21 + (b.toNat - vowels)) * 28)).toNat =
        syllables + ((a.toNat - leads) * 21 + (b.toNat - vowels)) * 28 :=
      toNat_ofNat (.inl (by omega))
    rw [IsWhole] at hwhole
    rw [hwhole, decomposeChar, syllableLetters?, hc, if_pos (by omega)]
    dsimp only
    rw [if_pos (by omega), hback _ a (by omega), hback _ b (by omega)]
    rfl
  split at h
  · next hrange =>
    -- an open syllable and a consonant behind it
    obtain rfl := Option.some.inj h
    have hc : (Char.ofNat (a.toNat + (b.toNat - trails))).toNat =
        a.toNat + (b.toNat - trails) := toNat_ofNat (.inl (by omega))
    have hlead : (a.toNat + (b.toNat - trails) - syllables) / (21 * 28) =
        (a.toNat - syllables) / (21 * 28) := by omega
    have hvowel : (a.toNat + (b.toNat - trails) - syllables) / 28 =
        (a.toNat - syllables) / 28 := by omega
    have hopen : syllableLetters? a = some
        [Char.ofNat (leads + (a.toNat - syllables) / (21 * 28)),
          Char.ofNat (vowels + (a.toNat - syllables) / 28 % 21)] := by
      rw [syllableLetters?, if_pos ⟨hrange.1, hrange.2.1⟩]
      dsimp only
      rw [if_pos hrange.2.2.1]
    rw [decomposeChar, decomposeChar, hopen, syllableLetters?, hc, if_pos (by omega)]
    dsimp only
    rw [if_neg (by omega), hlead, hvowel,
      hback (trails + (a.toNat + (b.toNat - trails) - syllables) % 28) b (by omega)]
  · cases h

/-- **A composite of two characters is taken apart into the first one, taken apart, and the
second.** -/
theorem decomposeChar_of_composite? {a b : Char} (h : composite? a b = some c) :
    decomposeChar c = decomposeChar a ++ [b] := by
  rw [composite?] at h
  split at h
  · next letter hsyllable =>
    obtain rfl := Option.some.inj h
    exact decomposeChar_of_syllable? hsyllable
  · next hnone =>
    obtain ⟨⟨span, parts⟩, hfind, rfl⟩ := Option.map_eq_some_iff.1 h
    obtain ⟨⟨code, base, mark⟩, hmem, heq⟩ := List.mem_map.1 (List.mem_of_find?_eq_some hfind)
    have hparts := List.find?_some hfind
    obtain ⟨rfl, rfl⟩ := Prod.mk.inj heq
    obtain ⟨rfl, rfl⟩ := Prod.mk.inj (of_decide_eq_true hparts)
    refine decomposeChar_of_mem (c := Char.ofNat code) ?_
    rw [toNat_ofNat (composites_sound _ hmem).1.2.1]
    exact hmem

/-! ## Putting marks in order -/

variable {s t : Text}

/-- Whether a character may stand behind another where the marks are in order. -/
def MayFollow (d c : Char) : Prop := combiningClass c = 0 ∨ combiningClass d ≤ combiningClass c

/-- Texts with the marks on each character in order. -/
def IsOrdered (s : Text) : Prop := s.IsChain MayFollow

theorem order_append (s t : Text) : order (s ++ t) = s.foldr insertMark (order t) := by
  induction s with
  | nil => rfl
  | cons c s ih => rw [List.cons_append, order, ih, List.foldr_cons]

theorem insertMark_cons_of_pos (h : 0 < combiningClass d ∧ combiningClass d < combiningClass c)
    (s : Text) : insertMark c (d :: s) = d :: insertMark c s := if_pos h

theorem insertMark_cons_of_neg (h : ¬(0 < combiningClass d ∧ combiningClass d < combiningClass c))
    (s : Text) : insertMark c (d :: s) = c :: d :: s := if_neg h

/-- **Two marks of different classes are put in order, whichever comes first.** -/
theorem insertMark_comm (hd : 0 < combiningClass d) (hlt : combiningClass d < combiningClass c)
    (s : Text) : insertMark c (insertMark d s) = insertMark d (insertMark c s) := by
  have hcd : ¬(0 < combiningClass c ∧ combiningClass c < combiningClass d) := by omega
  induction s with
  | nil => exact (insertMark_cons_of_pos ⟨hd, hlt⟩ []).trans (insertMark_cons_of_neg hcd []).symm
  | cons e s ih =>
    by_cases he : 0 < combiningClass e ∧ combiningClass e < combiningClass d
    · have hec : 0 < combiningClass e ∧ combiningClass e < combiningClass c :=
        ⟨he.1, Nat.lt_trans he.2 hlt⟩
      rw [insertMark_cons_of_pos he, insertMark_cons_of_pos hec, ih, insertMark_cons_of_pos hec,
        insertMark_cons_of_pos he]
    · -- the mark of the lower class stays in front, whether the other one passes or not
      rw [insertMark_cons_of_neg he, insertMark_cons_of_pos ⟨hd, hlt⟩]
      by_cases hec : 0 < combiningClass e ∧ combiningClass e < combiningClass c
      · rw [insertMark_cons_of_pos hec, insertMark_cons_of_neg he]
      · rw [insertMark_cons_of_neg hec, insertMark_cons_of_neg hcd]

/-- A mark may be moved behind marks of lower classes. -/
theorem order_move (front : Text) {marks : Text}
    (h : ∀ m ∈ marks, 0 < combiningClass m ∧ combiningClass m < combiningClass c) (rest : Text) :
    order (front ++ c :: (marks ++ rest)) = order (front ++ (marks ++ c :: rest)) := by
  have hmove : order (c :: (marks ++ rest)) = order (marks ++ c :: rest) := by
    induction marks with
    | nil => rfl
    | cons m marks ih =>
      obtain ⟨hm, hmarks⟩ := List.forall_mem_cons.1 h
      specialize ih hmarks
      rw [order] at ih
      rw [List.cons_append, order, order, List.cons_append, order, ← ih,
        insertMark_comm hm.1 hm.2]
  rw [order_append, order_append, hmove]

theorem head?_insertMark (c : Char) (s : Text) :
    (insertMark c s).head? = some c ∨ (insertMark c s).head? = s.head? := by
  cases s with
  | nil => exact .inl rfl
  | cons d s =>
    rw [insertMark]
    split
    · exact .inr rfl
    · exact .inl rfl

theorem isOrdered_insertMark (h : IsOrdered s) (c : Char) : IsOrdered (insertMark c s) := by
  induction s with
  | nil => exact List.isChain_singleton c
  | cons d s ih =>
    rw [IsOrdered, List.isChain_cons] at h
    obtain ⟨hhead, hs⟩ := h
    rw [insertMark]
    split
    · next hpass =>
      refine List.isChain_cons.2 ⟨fun e he => ?_, ih hs⟩
      rcases head?_insertMark c s with hc | hc
      · rw [hc] at he
        obtain rfl := Option.some.inj he
        exact .inr (Nat.le_of_lt hpass.2)
      · rw [hc] at he
        exact hhead e he
    · next hstay =>
      refine List.isChain_cons_cons.2 ⟨?_, List.isChain_cons.2 ⟨hhead, hs⟩⟩
      rw [MayFollow]
      omega

theorem isOrdered_order (s : Text) : IsOrdered (order s) := by
  induction s with
  | nil => exact List.isChain_nil
  | cons c s ih => exact isOrdered_insertMark ih c

/-- What is in order stays as it is. -/
theorem order_eq_self (h : IsOrdered s) : order s = s := by
  induction s with
  | nil => rfl
  | cons c s ih =>
    rw [IsOrdered, List.isChain_cons] at h
    rw [order, ih h.2]
    cases s with
    | nil => rfl
    | cons d s =>
      have hfollow : MayFollow c d := h.1 d rfl
      rw [MayFollow] at hfollow
      rw [insertMark, if_neg (by omega)]

theorem insertMark_perm (c : Char) (s : Text) : (insertMark c s).Perm (c :: s) := by
  induction s with
  | nil => exact .refl _
  | cons d s ih =>
    rw [insertMark]
    split
    · exact (ih.cons d).trans (.swap c d s)
    · exact .refl _

theorem order_perm (s : Text) : (order s).Perm s := by
  induction s with
  | nil => exact .refl _
  | cons c s ih => exact (insertMark_perm c _).trans (ih.cons c)

/-! ## Composing -/

variable {base : Char} {marks rest : Text}

theorem decompose_append (s t : Text) : decompose (s ++ t) = decompose s ++ decompose t :=
  List.flatMap_append

theorem decompose_cons (c : Char) (s : Text) :
    decompose (c :: s) = decomposeChar c ++ decompose s :=
  List.flatMap_cons

theorem decompose_eq_self (h : ∀ c ∈ s, IsWhole c) : decompose s = s := by
  induction s with
  | nil => rfl
  | cons c s ih =>
    obtain ⟨hc, hs⟩ := List.forall_mem_cons.1 h
    rw [decompose_cons, hc, ih hs]
    rfl

theorem isWhole_of_mem_decompose (h : c ∈ decompose s) : IsWhole c := by
  obtain ⟨d, -, hc⟩ := List.mem_flatMap.1 h
  exact isWhole_of_mem_decomposeChar hc

/-- **What becomes of the next character**: it is composed with the base if no mark is in between
that blocks it, else it begins anew or is one more mark. -/
theorem composeFrom_cases (base : Char) (marks : Text) (c : Char) (rest : Text) :
    (∃ composed, composite? base c = some composed ∧
      (∀ m ∈ marks.head?, combiningClass m < combiningClass c) ∧
      composeFrom base marks (c :: rest) = composeFrom composed marks rest) ∨
    combiningClass c = 0 ∧
      composeFrom base marks (c :: rest) = base :: (marks.reverse ++ composeFrom c [] rest) ∨
    0 < combiningClass c ∧
      composeFrom base marks (c :: rest) = composeFrom base (c :: marks) rest := by
  rw [composeFrom.eq_def]
  dsimp only
  split
  · next composed hcomposed =>
    left
    cases marks with
    | nil => exact ⟨composed, by simpa using hcomposed, nofun, rfl⟩
    | cons last marks =>
      by_cases hblocked : combiningClass c ≤ combiningClass last
      · simp [hblocked] at hcomposed
      · refine ⟨composed, by simpa [hblocked] using hcomposed, fun m hm => ?_, rfl⟩
        obtain rfl := Option.some.inj hm
        exact Nat.lt_of_not_le hblocked
  · right
    by_cases hc : combiningClass c = 0
    · exact .inl ⟨hc, if_pos hc⟩
    · exact .inr ⟨Nat.pos_of_ne_zero hc, if_neg hc⟩

/-- The last one of ordered marks is of the highest class. -/
theorem combiningClass_le_of_isOrdered {last : Char} (h : IsOrdered (last :: marks).reverse)
    (hpos : ∀ m ∈ last :: marks, 0 < combiningClass m) :
    ∀ m ∈ last :: marks, combiningClass m ≤ combiningClass last := by
  have hchain : (last :: marks).IsChain fun a b => combiningClass b ≤ combiningClass a := by
    refine (List.isChain_reverse.1 h).imp_of_mem_imp fun a b ha _ hab => ?_
    rcases hab with hzero | hle
    · exact absurd hzero (Nat.ne_of_gt (hpos a ha))
    · exact hle
  have : Trans (fun a b : Char => combiningClass b ≤ combiningClass a)
      (fun a b => combiningClass b ≤ combiningClass a)
      (fun a b => combiningClass b ≤ combiningClass a) :=
    ⟨fun hab hbc => Nat.le_trans hbc hab⟩
  have hpairwise := List.isChain_iff_pairwise.1 hchain
  exact List.forall_mem_cons.2 ⟨Nat.le_refl _, (List.pairwise_cons.1 hpairwise).1⟩

/-- **To take apart what was composed gives back what it was composed of**, with the marks in
order. -/
theorem order_decompose_composeFrom (hmarks : ∀ m ∈ marks, IsWhole m ∧ 0 < combiningClass m)
    (hrest : ∀ c ∈ rest, IsWhole c) (hordered : IsOrdered (marks.reverse ++ rest)) :
    order (decompose (composeFrom base marks rest)) =
      order (decomposeChar base ++ (marks.reverse ++ rest)) := by
  have hwhole : ∀ {marks : Text}, (∀ m ∈ marks, IsWhole m ∧ 0 < combiningClass m) →
      decompose marks.reverse = marks.reverse := fun hmarks =>
    decompose_eq_self fun m hm => (hmarks m (List.mem_reverse.1 hm)).1
  induction rest generalizing base marks with
  | nil => rw [composeFrom, decompose_cons, hwhole hmarks, List.append_nil]
  | cons c rest ih =>
    obtain ⟨hc, hrest⟩ := List.forall_mem_cons.1 hrest
    rcases composeFrom_cases base marks c rest with
      ⟨composed, hcomposite, hlast, heq⟩ | ⟨hzero, heq⟩ | ⟨hpos, heq⟩
    · -- the marks in between are of lower classes, so that the character may be moved to the base
      have hlower : ∀ m ∈ marks.reverse, 0 < combiningClass m ∧
          combiningClass m < combiningClass c := by
        intro m hm
        rw [List.mem_reverse] at hm
        refine ⟨(hmarks m hm).2, ?_⟩
        cases marks with
        | nil => cases hm
        | cons last marks =>
          have hle := combiningClass_le_of_isOrdered hordered.left_of_append
            (fun m hm => (hmarks m hm).2) m hm
          exact Nat.lt_of_le_of_lt hle (hlast last rfl)
      have hwithout : IsOrdered (marks.reverse ++ rest) := by
        obtain ⟨hfront, hback, hmeet⟩ := List.isChain_append.1 hordered
        refine List.isChain_append.2 ⟨hfront, hback.tail, fun m hm e he => ?_⟩
        have hce : MayFollow c e := hback.rel_head? he
        have hmc := hmeet m hm c rfl
        have hclass := hlower m (List.mem_of_mem_getLast? hm)
        rw [MayFollow] at *
        omega
      rw [heq, ih hmarks hrest hwithout, decomposeChar_of_composite? hcomposite,
        ← order_move _ hlower, List.append_assoc, List.singleton_append]
    · have hanew : order (decompose (composeFrom c [] rest)) = order (c :: rest) := by
        rw [ih (fun _ hm => absurd hm List.not_mem_nil) hrest hordered.right_of_append.tail, hc]
        rfl
      rw [heq, decompose_cons, decompose_append, hwhole hmarks, order_append, order_append, hanew,
        ← order_append, ← order_append]
    · have hmarks' : ∀ m ∈ c :: marks, IsWhole m ∧ 0 < combiningClass m :=
        List.forall_mem_cons.2 ⟨⟨hc, hpos⟩, hmarks⟩
      have hsame : (c :: marks).reverse ++ rest = marks.reverse ++ c :: rest := by simp
      rw [heq, ih hmarks' hrest (hsame ▸ hordered), hsame]

/-- **Composition is undone when the text is taken apart.** -/
theorem order_decompose_compose (hwhole : ∀ c ∈ s, IsWhole c) (hordered : IsOrdered s) :
    order (decompose (compose s)) = s := by
  cases s with
  | nil => rfl
  | cons c s =>
    obtain ⟨hc, hs⟩ := List.forall_mem_cons.1 hwhole
    rw [compose, order_decompose_composeFrom (fun _ hm => absurd hm List.not_mem_nil) hs
      hordered.tail, hc]
    exact order_eq_self hordered

/-- **A text in normal form is its own normal form.** -/
theorem normal_normal (s : Text) : normal (normal s) = normal s := by
  have hwhole : ∀ c ∈ order (decompose s), IsWhole c := fun c hc =>
    isWhole_of_mem_decompose ((order_perm _).mem_iff.1 hc)
  rw [normal, normal, order_decompose_compose hwhole (isOrdered_order _)]

/-! ## Characters of ASCII -/

theorem combiningSpans_sound : ∀ span ∈ combiningSpans, 0x80 ≤ span.1 ∧
    (span.2.1 < leads ∨ 0x1200 ≤ span.1) ∧
    (span.2.1 < syllables ∨ syllables + 19 * 21 * 28 ≤ span.1) ∧
    bits (composites.map fun entry => entry.2.1) >>> span.1 % 2 ^ (span.2.1 + 1 - span.1) = 0 := by
  decide +kernel

theorem combiningClass_eq_zero (h : ∀ span ∈ combiningSpans,
    ¬(span.1 ≤ c.toNat ∧ c.toNat ≤ span.2.1)) : combiningClass c = 0 := by
  rw [combiningClass]
  cases hfind : combiningTable.find? c.toNat with
  | none => rfl
  | some value =>
    obtain ⟨span, hmem, hspan⟩ := Table.find?_eq_some hfind
    obtain ⟨⟨low, high, value⟩, hentry, heq⟩ := List.mem_map.1 hmem
    obtain ⟨rfl, rfl⟩ := Prod.mk.inj heq
    simp only [Span.contains, Bool.and_eq_true, decide_eq_true_eq] at hspan
    exact absurd hspan (h _ hentry)

theorem combiningClass_of_ascii (h : c.toNat < 0x80) : combiningClass c = 0 :=
  combiningClass_eq_zero fun span hspan hrange => by
    have := (combiningSpans_sound span hspan).1
    omega

theorem combiningClass_of_isHangul (h : isHangul c.toNat = true) : combiningClass c = 0 :=
  combiningClass_eq_zero fun span hspan hrange => by
    obtain ⟨-, hletter, hsyllable, -⟩ := combiningSpans_sound span hspan
    simp only [isHangul, Bool.or_eq_true, Bool.and_eq_true, decide_eq_true_eq] at h
    omega

/-- The base of a composite is no mark. -/
theorem combiningClass_of_base {code base mark : Nat} (h : (code, base, mark) ∈ composites)
    (hc : c.toNat = base) : combiningClass c = 0 :=
  combiningClass_eq_zero fun span hspan hrange => by
    obtain ⟨-, -, -, hnone⟩ := combiningSpans_sound span hspan
    have hbit : (bits (composites.map fun entry => entry.2.1)).testBit base = true :=
      testBit_bits.2 (List.mem_map_of_mem h)
    have hzero := Nat.testBit_mod_two_pow
      (bits (composites.map fun entry => entry.2.1) >>> span.1) (span.2.1 + 1 - span.1)
      (base - span.1)
    rw [hnone, Nat.zero_testBit, Nat.testBit_shiftRight, Nat.add_sub_cancel' (by omega), hbit,
      decide_eq_true (by omega)] at hzero
    cases hzero

/-- **What composes**: a base, which is neither a mark nor one of the first signs of ASCII, and a
character beyond ASCII. -/
theorem sound_of_composite? {a b : Char} (h : composite? a b = some c) :
    0x30 ≤ a.toNat ∧ combiningClass a = 0 ∧ 0x80 ≤ b.toNat := by
  rw [composite?] at h
  split at h
  · next letter hsyllable =>
    have hleads : leads = 0x1100 := rfl
    have hvowels : vowels = 0x1161 := rfl
    have htrails : trails = 0x11A7 := rfl
    have hsyllables : syllables = 0xAC00 := rfl
    have hangul : isHangul a.toNat = true → 0x30 ≤ a.toNat ∧ combiningClass a = 0 := by
      refine fun hangul => ⟨?_, combiningClass_of_isHangul hangul⟩
      simp only [isHangul, Bool.or_eq_true, Bool.and_eq_true, decide_eq_true_eq] at hangul
      omega
    rw [syllable?] at hsyllable
    split at hsyllable
    · next hrange =>
      obtain ⟨hlow, hclass⟩ := hangul (by simp [isHangul]; omega)
      exact ⟨hlow, hclass, by omega⟩
    split at hsyllable
    · next hrange =>
      obtain ⟨hlow, hclass⟩ := hangul (by simp [isHangul]; omega)
      exact ⟨hlow, hclass, by omega⟩
    · cases hsyllable
  · obtain ⟨⟨span, parts⟩, hfind, rfl⟩ := Option.map_eq_some_iff.1 h
    obtain ⟨⟨code, base, mark⟩, hmem, heq⟩ := List.mem_map.1 (List.mem_of_find?_eq_some hfind)
    have hparts := List.find?_some hfind
    obtain ⟨rfl, rfl⟩ := Prod.mk.inj heq
    obtain ⟨rfl, rfl⟩ := Prod.mk.inj (of_decide_eq_true hparts)
    obtain ⟨-, ⟨hlow, hbase, -⟩, hhigh, hmark, -⟩ := composites_sound _ hmem
    refine ⟨?_, combiningClass_of_base hmem (toNat_ofNat hbase), ?_⟩
    · rw [toNat_ofNat hbase]
      exact hlow
    · rw [toNat_ofNat hmark]
      exact hhigh

theorem isWhole_of_ascii (h : c.toNat < 0x80) : IsWhole c := by
  refine isWhole_of_not_mem (fun hmem => ?_) ?_
  · obtain ⟨⟨code, parts⟩, hentry, rfl⟩ := List.mem_map.1 hmem
    exact absurd (composites_sound _ hentry).1.1 (Nat.not_le_of_lt h)
  · have hsyllables : syllables = 0xAC00 := rfl
    rw [syllableLetters?, if_neg (by omega)]

/-- What does not compose with the next character is left behind, or gets one more mark. -/
theorem composeFrom_of_none (h : composite? base c = none) (marks rest : Text) :
    composeFrom base marks (c :: rest) =
      if combiningClass c = 0 then base :: (marks.reverse ++ composeFrom c [] rest)
      else composeFrom base (c :: marks) rest := by
  rcases composeFrom_cases base marks c rest with
    ⟨composed, hcomposite, -⟩ | ⟨hzero, heq⟩ | ⟨hpos, heq⟩
  · rw [h] at hcomposite
    cases hcomposite
  · rw [heq, if_pos hzero]
  · rw [heq, if_neg (Nat.ne_of_gt hpos)]

/-- **A text of ASCII is in normal form.** -/
theorem normal_of_ascii (h : ∀ c ∈ s, c.toNat < 0x80) : normal s = s := by
  have hwhole : decompose s = s := decompose_eq_self fun c hc => isWhole_of_ascii (h c hc)
  have horder : IsOrdered s := by
    refine List.Pairwise.isChain (List.pairwise_of_forall_mem_list fun c _ d hd => ?_)
    exact .inl (combiningClass_of_ascii (h d hd))
  have hcompose : ∀ (base : Char) (rest : Text), (∀ c ∈ rest, c.toNat < 0x80) →
      composeFrom base [] rest = base :: rest := by
    intro base rest hrest
    induction rest generalizing base with
    | nil => rfl
    | cons c rest ih =>
      obtain ⟨hc, hrest⟩ := List.forall_mem_cons.1 hrest
      have hnone : composite? base c = none := Option.eq_none_iff_forall_ne_some.2 fun d hd => by
        have := (sound_of_composite? hd).2.2
        omega
      rw [composeFrom_of_none hnone, if_pos (combiningClass_of_ascii hc), ih c hrest]
      rfl
  rw [normal, hwhole, order_eq_self horder]
  cases s with
  | nil => rfl
  | cons c s => exact hcompose c s (List.forall_mem_cons.1 h).2

/-! ## Parts of a text in normal form -/

section Separator

variable {sep : Char} (hsep : sep.toNat < 0x30)

include hsep

theorem composeFrom_append (base : Char) (marks s t : Text) :
    composeFrom base marks (s ++ sep :: t) =
      composeFrom base marks s ++ composeFrom sep [] t := by
  induction s generalizing base marks with
  | nil =>
    have hnone : composite? base sep = none := Option.eq_none_iff_forall_ne_some.2 fun d hd => by
      have := (sound_of_composite? hd).2.2
      omega
    rw [List.nil_append, composeFrom_of_none hnone, if_pos (combiningClass_of_ascii (by omega)),
      composeFrom, List.cons_append]
  | cons c s ih =>
    rw [List.cons_append, composeFrom.eq_def, composeFrom.eq_def base marks (c :: s)]
    dsimp only
    split
    · next composed _ => exact ih composed marks
    · split
      · rw [ih c [], List.cons_append, List.append_assoc]
      · exact ih base (c :: marks)

/-- A separator takes no part in what follows it. -/
theorem composeFrom_sep (t : Text) : composeFrom sep [] t = sep :: compose t := by
  have hnone : ∀ c, composite? sep c = none := fun c =>
    Option.eq_none_iff_forall_ne_some.2 fun d hd => by
      have := (sound_of_composite? hd).1
      omega
  -- marks at the start stand on the separator, and without it on the first of them
  have hmarks : ∀ (m : Char) (marks t : Text), 0 < combiningClass m →
      composeFrom sep (marks ++ [m]) t = sep :: composeFrom m marks t := by
    intro m marks t hm
    induction t generalizing marks with
    | nil => simp [composeFrom]
    | cons c t ih =>
      have hnone' : composite? m c = none := Option.eq_none_iff_forall_ne_some.2 fun d hd => by
        have := (sound_of_composite? hd).2.1
        omega
      rw [composeFrom_of_none (hnone c), composeFrom_of_none hnone']
      split
      · simp
      · exact ih (c :: marks)
  cases t with
  | nil => rfl
  | cons c t =>
    rw [composeFrom_of_none (hnone c)]
    split
    · rfl
    · next hc => exact hmarks c [] t (Nat.pos_of_ne_zero hc)

theorem compose_append (s t : Text) : compose (s ++ sep :: t) = compose s ++ sep :: compose t := by
  cases s with
  | nil => exact composeFrom_sep hsep t
  | cons c s =>
    rw [List.cons_append, compose, composeFrom_append hsep, composeFrom_sep hsep, compose]

theorem order_append_sep (s t : Text) : order (s ++ sep :: t) = order s ++ sep :: order t := by
  have hclass : combiningClass sep = 0 := combiningClass_of_ascii (by omega)
  have hinsert : ∀ c s t, insertMark c (s ++ sep :: t) = insertMark c s ++ sep :: t := by
    intro c s t
    induction s with
    | nil => rw [List.nil_append, insertMark_cons_of_neg (by omega)]; rfl
    | cons d s ih =>
      rw [List.cons_append, insertMark, insertMark, ih]
      split <;> rfl
  induction s with
  | nil =>
    have hfirst : ∀ t, insertMark sep t = sep :: t := by
      intro t
      cases t with
      | nil => rfl
      | cons d t => exact insertMark_cons_of_neg (by omega) t
    exact hfirst (order t)
  | cons c s ih => rw [List.cons_append, order, ih, hinsert, order]

/-- **The normal form of a text is that of its parts.** -/
theorem normal_append (s t : Text) : normal (s ++ sep :: t) = normal s ++ sep :: normal t := by
  have hwhole : IsWhole sep := isWhole_of_ascii (by omega)
  rw [normal, decompose_append, decompose_cons, hwhole, List.singleton_append,
    order_append_sep hsep, compose_append hsep]
  rfl

end Separator

/-- A character of ASCII in what a character is taken apart into that is no base is the character
itself. -/
theorem eq_of_mem_decomposeChar {sep : Char} (hsep : sep.toNat < 0x30)
    (h : sep ∈ decomposeChar c) : c = sep := by
  have hwithin : ∀ depth c, sep ∈ decomposeWithin depth c → c = sep := by
    intro depth c h
    induction depth generalizing c with
    | zero => exact (List.mem_singleton.1 h).symm
    | succ depth ih =>
      rw [decomposeWithin] at h
      cases hfind : compositeTable.find? c.toNat with
      | none =>
        rw [hfind] at h
        exact (List.mem_singleton.1 h).symm
      | some parts =>
        obtain ⟨base, mark, hmem, rfl⟩ := find?_compositeTable_eq_some.1 hfind
        obtain ⟨-, ⟨hlow, hbase, -⟩, hhigh, hmark, -⟩ := composites_sound _ hmem
        simp only [hfind, List.mem_append, List.mem_singleton] at h
        rcases h with h | rfl
        · have heq := ih _ h
          rw [← heq, toNat_ofNat hbase] at hsep
          exact absurd hlow (Nat.not_le_of_lt hsep)
        · rw [toNat_ofNat hmark] at hsep
          omega
  rw [decomposeChar] at h
  split at h
  · next letters hletters =>
    obtain ⟨n, hlow, hhigh, rfl⟩ := exists_of_mem_syllableLetters? hletters h
    have hleads : leads = 0x1100 := rfl
    rw [toNat_ofNat (.inl (by omega))] at hsep
    omega
  · exact hwithin 4 c h

/-- A separator in the normal form of a text is one of the text. -/
theorem mem_of_mem_normal {sep : Char} (hsep : sep.toNat < 0x30) (h : sep ∈ normal s) :
    sep ∈ s := by
  have hwhole : ∀ c ∈ order (decompose s), IsWhole c := fun c hc =>
    isWhole_of_mem_decompose ((order_perm _).mem_iff.1 hc)
  have hsame : order (decompose (normal s)) = order (decompose s) :=
    order_decompose_compose hwhole (isOrdered_order _)
  have hmem : sep ∈ decompose (normal s) := by
    obtain ⟨front, back, hs⟩ := List.append_of_mem h
    have hone : IsWhole sep := isWhole_of_ascii (by omega)
    rw [hs, decompose_append, decompose_cons, hone]
    simp
  rw [← (order_perm _).mem_iff, hsame, (order_perm _).mem_iff] at hmem
  obtain ⟨c, hc, hsep'⟩ := List.mem_flatMap.1 hmem
  rwa [eq_of_mem_decomposeChar hsep hsep'] at hc

/-- **The pieces of a normal form are the normal forms of the pieces.** -/
theorem pieces_normal {sep : Char} (hsep : sep.toNat < 0x30) (s : Text) :
    Text.pieces sep (normal s) = (Text.pieces sep s).map normal := by
  cases hcut : Text.cut? sep s with
  | none =>
    have hnone := Text.cut?_eq_none.1 hcut
    rw [Text.pieces_eq_singleton hnone,
      Text.pieces_eq_singleton fun h => hnone (mem_of_mem_normal hsep h)]
    rfl
  | some cut =>
    obtain ⟨front, back⟩ := cut
    obtain ⟨hs, hfront⟩ := Text.cut?_eq_some.1 hcut
    have hlt : back.length < s.length := by
      rw [hs, List.length_append, List.length_cons]
      omega
    rw [hs, normal_append hsep, Text.pieces_append fun h => hfront (mem_of_mem_normal hsep h),
      Text.pieces_append hfront, List.map_cons, pieces_normal hsep back]
termination_by s.length

/-- **The pieces of a text in normal form are in normal form.** -/
theorem normal_of_mem_pieces {sep : Char} (hsep : sep.toNat < 0x30) {s piece : Text}
    (hpiece : piece ∈ Text.pieces sep (normal s)) : normal piece = piece := by
  have hsame := pieces_normal hsep (normal s)
  rw [normal_normal] at hsame
  have hfix : (Text.pieces sep (normal s)).map normal = (Text.pieces sep (normal s)).map id := by
    rw [← hsame, List.map_id]
  exact List.map_inj_left.1 hfix piece hpiece

end OAuth.Unicode
