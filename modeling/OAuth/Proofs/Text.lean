import Mathlib.Data.List.Forall2
import OAuth.Text.Blank

/-!
# Joining and cutting

How `Text.join`, `Text.pieces`, `Text.cut?` and `Text.trim` act on texts that are put together from
others, and which characters such texts have. Main statement: `Text.pieces_append_cons`, a separator
anywhere is where the pieces of the two sides meet.
-/

namespace OAuth.Text

/-! ## Pieces -/

theorem pieces_cons_of_ne {sep c : Char} {s piece : Text} {more : List Text} (h : c ≠ sep)
    (hs : pieces sep s = piece :: more) : pieces sep (c :: s) = (c :: piece) :: more := by
  rw [pieces, if_neg h, hs]

/-- **The pieces on both sides of a separator are all the pieces.** -/
theorem pieces_append_cons (sep : Char) (s t : Text) :
    pieces sep (s ++ sep :: t) = pieces sep s ++ pieces sep t := by
  induction s with
  | nil => simp [pieces]
  | cons c s ih =>
    by_cases h : c = sep
    · subst h
      simp [pieces, ih]
    · cases hs : pieces sep s with
      | nil => exact absurd hs (pieces_ne_nil sep s)
      | cons piece more =>
        rw [hs, List.cons_append] at ih
        rw [List.cons_append, pieces_cons_of_ne h ih, pieces_cons_of_ne h hs, List.cons_append]

/-- A piece is made of characters of the text, and the separator is none of them. -/
theorem mem_of_mem_pieces {sep c : Char} {s piece : Text} (hpiece : piece ∈ pieces sep s)
    (hc : c ∈ piece) : c ∈ s ∧ c ≠ sep := by
  induction s generalizing piece with
  | nil =>
    obtain rfl : piece = [] := by simpa [pieces] using hpiece
    cases hc
  | cons d s ih =>
    by_cases h : d = sep
    · subst h
      simp only [pieces, ↓reduceIte, List.mem_cons] at hpiece
      rcases hpiece with rfl | hpiece
      · cases hc
      · obtain ⟨hs, hne⟩ := ih hpiece hc
        exact ⟨List.mem_cons_of_mem _ hs, hne⟩
    · cases hs : pieces sep s with
      | nil => exact absurd hs (pieces_ne_nil sep s)
      | cons first more =>
        rw [pieces_cons_of_ne h hs, List.mem_cons] at hpiece
        rw [hs] at ih
        rcases hpiece with rfl | hpiece
        · rcases List.mem_cons.1 hc with rfl | hc
          · exact ⟨List.mem_cons_self, h⟩
          · obtain ⟨hmem, hne⟩ := ih List.mem_cons_self hc
            exact ⟨List.mem_cons_of_mem _ hmem, hne⟩
        · obtain ⟨hmem, hne⟩ := ih (List.mem_cons_of_mem _ hpiece) hc
          exact ⟨List.mem_cons_of_mem _ hmem, hne⟩

/-! ## Joins -/

theorem join_append (sep : Text) {front back : List Text} (hf : front ≠ []) (hb : back ≠ []) :
    join sep (front ++ back) = join sep front ++ sep ++ join sep back := by
  induction front with
  | nil => exact absurd rfl hf
  | cons first rest ih =>
    cases rest with
    | nil => rw [List.singleton_append, join, List.intercalate_cons_of_ne_nil hb]; simp [join]
    | cons second more =>
      have ih : join sep (second :: more ++ back) = _ := ih (by simp)
      rw [List.cons_append, join, List.intercalate_cons_of_ne_nil (by simp), ← join, ih, join, join,
        join, List.intercalate_cons_cons]
      simp only [List.append_assoc]

/-- Groups that are joined one by one are joined as a whole. -/
theorem join_map_join (sep : Text) {groups : List (List Text)} (h : ∀ group ∈ groups, group ≠ []) :
    join sep (groups.map (join sep)) = join sep groups.flatten := by
  induction groups with
  | nil => rfl
  | cons group groups ih =>
    have ih := ih fun g hg => h g (List.mem_cons_of_mem _ hg)
    by_cases hempty : groups = []
    · subst hempty
      simp [join]
    · have hflat : groups.flatten ≠ [] := by
        obtain ⟨next, more, rfl⟩ := List.exists_cons_of_ne_nil hempty
        have hnext : next ≠ [] := h next (by simp)
        simp [hnext]
      rw [List.map_cons, join, List.intercalate_cons_of_ne_nil (by simpa using hempty), ← join, ih,
        List.flatten_cons, join_append sep (h group List.mem_cons_self) hflat]

theorem mem_join {sep : Text} {parts : List Text} {c : Char} (h : c ∈ join sep parts) :
    c ∈ sep ∨ ∃ part ∈ parts, c ∈ part := by
  induction parts with
  | nil => cases h
  | cons first rest ih =>
    by_cases hrest : rest = []
    · subst hrest
      exact .inr ⟨first, List.mem_cons_self, by simpa [join] using h⟩
    · rw [join, List.intercalate_cons_of_ne_nil hrest, List.mem_append, List.mem_append] at h
      rcases h with (h | h) | h
      · exact .inr ⟨first, List.mem_cons_self, h⟩
      · exact .inl h
      · rcases ih h with hsep | ⟨part, hpart, hc⟩
        · exact .inl hsep
        · exact .inr ⟨part, List.mem_cons_of_mem _ hpart, hc⟩

/-- The characters of a part are those of the join. -/
theorem mem_join_of_mem {sep part : Text} {parts : List Text} (hpart : part ∈ parts) {c : Char}
    (hc : c ∈ part) : c ∈ join sep parts := by
  induction parts with
  | nil => cases hpart
  | cons first rest ih =>
    by_cases hrest : rest = []
    · subst hrest
      obtain rfl := List.mem_singleton.1 hpart
      simpa [join] using hc
    · rw [join, List.intercalate_cons_of_ne_nil hrest, List.mem_append, List.mem_append]
      rcases List.mem_cons.1 hpart with rfl | hpart
      · exact .inl (.inl hc)
      · exact .inr (ih hpart)

/-! ## Cuts -/

theorem cut?_append {sep : Char} {s front back : Text} (t : Text)
    (h : cut? sep s = some (front, back)) : cut? sep (s ++ t) = some (front, back ++ t) := by
  obtain ⟨rfl, hfront⟩ := cut?_eq_some.1 h
  exact cut?_eq_some.2 ⟨by simp, hfront⟩

/-- The first separator of a text whose front has none stands behind the front. -/
theorem cut?_append_cons {sep : Char} {front : Text} (h : sep ∉ front) (back : Text) :
    cut? sep (front ++ sep :: back) = some (front, back) :=
  cut?_eq_some.2 ⟨rfl, h⟩

/-- The text behind a separator is part of the whole. -/
theorem subset_of_cut? {sep : Char} {s front back : Text} (h : cut? sep s = some (front, back)) :
    back ⊆ s := by
  obtain ⟨rfl, -⟩ := cut?_eq_some.1 h
  exact fun c hc => List.mem_append_right _ (List.mem_cons_of_mem _ hc)

/-! ## Lists -/

section Lists

variable {α β : Type} {f : α → Option β} {l : List α} {l' : List β}

/-- A list is read if each of its elements is. -/
theorem mapM_eq_some : l.mapM f = some l' ↔ List.Forall₂ (fun a b => f a = some b) l l' := by
  induction l generalizing l' with
  | nil => cases l' <;> simp
  | cons a l ih =>
    rw [List.mapM_cons, List.forall₂_cons_left_iff]
    constructor
    · intro h
      obtain ⟨b, hb, h⟩ := Option.bind_eq_some_iff.1 h
      obtain ⟨more, hmore, h⟩ := Option.bind_eq_some_iff.1 h
      exact ⟨b, more, hb, ih.1 hmore, (Option.some.inj h).symm⟩
    · rintro ⟨b, more, hb, hmore, rfl⟩
      rw [hb, ih.2 hmore]
      rfl

/-- What a list is read as is read of its elements. -/
theorem exists_of_mem_mapM (h : l.mapM f = some l') {b : β} (hb : b ∈ l') :
    ∃ a ∈ l, f a = some b := by
  induction mapM_eq_some.1 h with
  | nil => cases hb
  | cons hfirst hrest ih =>
    rcases List.mem_cons.1 hb with rfl | hb
    · exact ⟨_, List.mem_cons_self, hfirst⟩
    · obtain ⟨a, ha, hread⟩ := ih (mapM_eq_some.2 hrest) hb
      exact ⟨a, List.mem_cons_of_mem _ ha, hread⟩

/-- Where an element cannot be read the list cannot. -/
theorem mapM_eq_none {a : α} (ha : a ∈ l) (hnone : f a = none) : l.mapM f = none := by
  induction l with
  | nil => cases ha
  | cons first rest ih =>
    rw [List.mapM_cons]
    rcases List.mem_cons.1 ha with rfl | ha
    · rw [hnone]
      rfl
    · rw [ih ha]
      cases f first <;> rfl

/-- The last that a list has is the last of its rest, unless there is none. -/
theorem getLast?_filterMap_cons (f : α → Option β) (first : α) (rest : List α) :
    ((first :: rest).filterMap f).getLast? = ((rest.filterMap f).getLast?).or (f first) := by
  rw [List.filterMap_cons]
  cases f first with
  | none => simp
  | some b => simp [List.getLast?_cons]

/-- What is put behind a list whose elements are each kept once is kept if it is not there yet. -/
theorem eraseDupsBy_concat (same : α → α → Bool) (l : List α) (a : α) :
    (l ++ [a]).eraseDupsBy same =
      if (l.eraseDupsBy same).any (same a) then l.eraseDupsBy same
      else l.eraseDupsBy same ++ [a] := by
  -- the loop keeps what it has seen in reverse, and that varies
  have hloop : ∀ (l seen : List α), List.eraseDupsBy.loop same (l ++ [a]) seen =
      if (List.eraseDupsBy.loop same l seen).any (same a) then List.eraseDupsBy.loop same l seen
      else List.eraseDupsBy.loop same l seen ++ [a] := by
    intro l
    induction l with
    | nil =>
      intro seen
      cases h : seen.any (same a) <;> simp [List.eraseDupsBy.loop, h]
    | cons first rest ih =>
      intro seen
      cases h : seen.any (same first) <;> simp only [List.cons_append, List.eraseDupsBy.loop, h, ih]
  exact hloop l []

/-- What comes in order, though some of it again, is in order when each is kept once. -/
theorem pairwise_eraseDups [BEq α] [LawfulBEq α] {R : α → α → Prop} {l : List α}
    (h : l.Pairwise fun a b => a = b ∨ R a b) : l.eraseDups.Pairwise R := by
  match l, h with
  | [], _ => exact .nil
  | first :: rest, h =>
    obtain ⟨hfirst, hrest⟩ := List.pairwise_cons.1 h
    rw [List.eraseDups_cons]
    refine List.pairwise_cons.2 ⟨fun a ha => ?_, pairwise_eraseDups (hrest.filter _)⟩
    rw [List.mem_eraseDups, List.mem_filter] at ha
    obtain ⟨hmem, hne⟩ := ha
    rcases hfirst a hmem with rfl | hbefore
    · simp at hne
    · exact hbefore
termination_by l.length
decreasing_by exact Nat.lt_succ_of_le (List.length_filter_le _ rest)

end Lists

/-! ## Blanks -/

theorem trimStart_subset (s : Text) : trimStart s ⊆ s := (List.dropWhile_suffix _).subset

theorem trim_subset (s : Text) : trim s ⊆ s := by
  intro c hc
  rw [trim, trimEnd, List.mem_reverse] at hc
  exact trimStart_subset s (List.mem_reverse.1 ((List.dropWhile_suffix _).subset hc))

theorem trimStart_of_forall {s : Text} (h : ∀ c ∈ s, isBlank c = false) : trimStart s = s := by
  cases s with
  | nil => rfl
  | cons c s => exact trimStart_eq_self (h c List.mem_cons_self)

/-- Where there is no blank there is nothing to take away. -/
theorem trim_eq_self {s : Text} (h : ∀ c ∈ s, isBlank c = false) : trim s = s := by
  rw [trim, trimStart_of_forall h]
  rcases List.eq_nil_or_concat s with rfl | ⟨front, c, rfl⟩
  · rfl
  · rw [List.concat_eq_append] at h ⊢
    exact trimEnd_eq_self (h c (by simp))

theorem trimStart_append {front : Text} (h : ∀ c ∈ front, isBlank c = true) (s : Text) :
    trimStart (front ++ s) = trimStart s := List.dropWhile_append_of_pos h

theorem trimEnd_append {back : Text} (s : Text) (h : ∀ c ∈ back, isBlank c = true) :
    trimEnd (s ++ back) = trimEnd s := by
  rw [trimEnd, trimEnd, List.reverse_append, List.dropWhile_append_of_pos]
  intro c hc
  exact h c (List.mem_reverse.1 hc)

/-- Blanks around a text are taken away. -/
theorem trim_append {front back : Text} (hfront : ∀ c ∈ front, isBlank c = true)
    (hback : ∀ c ∈ back, isBlank c = true) (s : Text) : trim (front ++ s ++ back) = trim s := by
  rw [trim, List.append_assoc, trimStart_append hfront, trimStart, List.dropWhile_append]
  split
  · next hempty =>
    -- the text is blank throughout, and so is all of it
    have hnil : trimStart s = [] := List.isEmpty_iff.1 hempty
    have hall : trimStart (back ++ []) = [] := trimStart_append hback []
    rw [List.append_nil] at hall
    rw [trim, hnil]
    exact congrArg trimEnd hall
  · exact trimEnd_append _ hback

theorem trimEnd_isPrefix (s : Text) : trimEnd s <+: s := by
  rw [trimEnd, ← List.reverse_suffix, List.reverse_reverse]
  exact List.dropWhile_suffix _

/-- How a text begins is how it does without the blanks at its end, if no blank is among it. -/
theorem isPrefix_trimEnd {p s : Text} (hp : ∀ c ∈ p, isBlank c = false) :
    p <+: trimEnd s ↔ p <+: s := by
  constructor
  · exact fun h => h.trans (trimEnd_isPrefix s)
  · rintro ⟨rest, rfl⟩
    have hkept : p.reverse.dropWhile isBlank = p.reverse :=
      trimStart_of_forall fun c hc => hp c (List.mem_reverse.1 hc)
    rw [trimEnd, List.reverse_append, List.dropWhile_append]
    split
    · exact ⟨[], by rw [List.append_nil, hkept, List.reverse_reverse]⟩
    · rw [List.reverse_append, List.reverse_reverse]
      exact List.prefix_append _ _

theorem isAsciiBlank_eq_false {c : Char} (h : isBlank c = false) : isAsciiBlank c = false := by
  apply Bool.eq_false_iff.2
  intro hascii
  rw [isAsciiBlank_isBlank hascii] at h
  cases h

/-! ## Visible characters -/

/-- Whether a character is in ASCII, and neither a blank nor a control. -/
def isVisible (c : Char) : Bool := 0x20 < c.toNat && c.toNat < 0x7F

/-- Texts of visible characters. -/
def IsVisible (s : Text) : Prop := ∀ c ∈ s, isVisible c = true

instance (s : Text) : Decidable (IsVisible s) := List.decidableBAll _ s

theorem isVisible_iff {c : Char} : isVisible c = true ↔ 0x20 < c.toNat ∧ c.toNat < 0x7F := by
  simp [isVisible]

/-- What stands between visible characters is visible. -/
theorem isVisible_of_between {c d e : Char} (hd : isVisible d = true) (he : isVisible e = true)
    (hdc : d ≤ c) (hce : c ≤ e) : isVisible c = true := by
  have hlow : d.toNat ≤ c.toNat := UInt32.le_iff_toNat_le.1 (Char.le_def.1 hdc)
  have hhigh : c.toNat ≤ e.toNat := UInt32.le_iff_toNat_le.1 (Char.le_def.1 hce)
  rw [isVisible_iff] at *
  omega

/-- No visible character is a blank. -/
theorem IsVisible.isBlank_eq_false {s : Text} (h : IsVisible s) : ∀ c ∈ s, isBlank c = false := by
  intro c hc
  obtain ⟨hlow, hhigh⟩ := isVisible_iff.1 (h c hc)
  simp only [isBlank, Bool.or_eq_false_iff, Bool.and_eq_false_iff, decide_eq_false_iff_not,
    beq_eq_false_iff_ne]
  omega

theorem IsVisible.not_mem {s : Text} (h : IsVisible s) {c : Char} (hc : isVisible c = false) :
    c ∉ s := by
  intro hmem
  have hvisible := h c hmem
  rw [hc] at hvisible
  cases hvisible

@[simp] theorem isVisible_nil : IsVisible [] := fun _ hc => absurd hc List.not_mem_nil

@[simp] theorem isVisible_cons {c : Char} {s : Text} :
    IsVisible (c :: s) ↔ isVisible c = true ∧ IsVisible s := List.forall_mem_cons

@[simp] theorem isVisible_append {s t : Text} :
    IsVisible (s ++ t) ↔ IsVisible s ∧ IsVisible t := List.forall_mem_append

theorem isVisible_join {sep : Text} {parts : List Text} (hsep : IsVisible sep)
    (h : ∀ part ∈ parts, IsVisible part) : IsVisible (join sep parts) := by
  intro c hc
  rcases mem_join hc with hc | ⟨part, hpart, hc⟩
  · exact hsep c hc
  · exact h part hpart c hc

/-- What all characters of a list lack is not in the list. -/
theorem not_mem_of_all {l : Text} {p : Char → Bool} (h : l.all (fun c => !p c) = true) {c : Char}
    (hc : p c = true) : c ∉ l := by
  intro hmem
  have hnot := List.all_eq_true.1 h c hmem
  rw [hc] at hnot
  cases hnot

theorem isVisible_decimal (n : Nat) : IsVisible (decimal n) := by
  intro c hc
  have hdigit : c.isDigit = true := Nat.isDigit_of_mem_toDigits (by decide) (by decide) hc
  rw [Char.isDigit, Bool.and_eq_true, decide_eq_true_eq, decide_eq_true_eq] at hdigit
  exact isVisible_of_between (d := '0') (e := '9') (by decide) (by decide) hdigit.1 hdigit.2

/-! ## Letter case -/

theorem isUpper_eq_false_iff {c : Char} :
    c.isUpper = false ↔ c.toNat < 0x41 ∨ 0x5A < c.toNat := by
  have hrange : c.val ≥ 'A'.val ∧ c.val ≤ 'Z'.val ↔ 0x41 ≤ c.toNat ∧ c.toNat ≤ 0x5A := by
    rw [ge_iff_le, UInt32.le_iff_toNat_le, UInt32.le_iff_toNat_le]
    rfl
  have hdecide : c.isUpper = decide (c.val ≥ 'A'.val ∧ c.val ≤ 'Z'.val) := rfl
  rw [hdecide, decide_eq_false_iff_not, hrange]
  omega

theorem toLower_of_isUpper {c : Char} (h : c.isUpper = false) : c.toLower = c :=
  dif_neg (of_decide_eq_false h)

/-- A character is a capital letter of ASCII, or its own lower case. -/
theorem toLower_cases (c : Char) :
    (∃ n < 26, c = Char.ofNat (0x41 + n)) ∨ c.isUpper = false ∧ c.toLower = c := by
  cases h : c.isUpper with
  | true =>
    have hrange : ¬(c.toNat < 0x41 ∨ 0x5A < c.toNat) := by
      rw [← isUpper_eq_false_iff, h]
      exact Bool.noConfusion
    refine .inl ⟨c.toNat - 0x41, by omega, ?_⟩
    rw [Nat.add_sub_cancel' (by omega), Char.ofNat_toNat]
  | false => exact .inr ⟨rfl, toLower_of_isUpper h⟩

/-- A character in lower case is no capital letter. -/
theorem isUpper_toLower (c : Char) : c.toLower.isUpper = false := by
  rcases toLower_cases c with ⟨n, hn, rfl⟩ | ⟨hupper, hc⟩
  · have all : ∀ n < 26, (Char.ofNat (0x41 + n)).toLower.isUpper = false := by decide
    exact all n hn
  · rw [hc, hupper]

/-- What is so of each letter of ASCII and its lower case is so of each character and its lower
case, if it is so of a character and itself. -/
theorem rel_toLower {R : Char → Char → Prop} (hself : ∀ c, R c c)
    (hletter : ∀ n < 26, R (Char.ofNat (0x41 + n)) (Char.ofNat (0x41 + n)).toLower) (c : Char) :
    R c c.toLower := by
  rcases toLower_cases c with ⟨n, hn, rfl⟩ | ⟨-, hc⟩
  · exact hletter n hn
  · rw [hc]
    exact hself c

theorem toLower_toLower (s : Text) : toLower (toLower s) = toLower s := by
  rw [toLower, toLower, List.map_map]
  exact List.map_congr_left fun c _ => toLower_of_isUpper (isUpper_toLower c)

theorem toLower_eq_self {s : Text} (h : ∀ c ∈ s, c.toLower = c) : toLower s = s :=
  (List.map_congr_left h).trans (List.map_id s)

/-- Only a letter has a lower case of its own. -/
theorem toLower_eq_iff {sep : Char} (hsep : sep.isAlpha = false) (c : Char) :
    c.toLower = sep ↔ c = sep := by
  rcases toLower_cases c with ⟨n, hn, rfl⟩ | ⟨-, hc⟩
  · have all : ∀ n < 26, (Char.ofNat (0x41 + n)).isAlpha = true ∧
        (Char.ofNat (0x41 + n)).toLower.isAlpha = true := by decide
    constructor
    · rintro rfl
      simp [(all n hn).2] at hsep
    · rintro rfl
      simp [(all n hn).1] at hsep
  · rw [hc]

theorem toLower_append (s t : Text) : toLower (s ++ t) = toLower s ++ toLower t := List.map_append

theorem toLower_join {sep : Char} (hsep : sep.toLower = sep) (parts : List Text) :
    toLower (join [sep] parts) = join [sep] (parts.map toLower) := by
  induction parts with
  | nil => rfl
  | cons first rest ih =>
    by_cases hrest : rest = []
    · subst hrest
      simp [join]
    · rw [List.map_cons, join, join, List.intercalate_cons_of_ne_nil hrest,
        List.intercalate_cons_of_ne_nil (by simpa using hrest), toLower_append, toLower_append,
        ← join, ih, join]
      rw [show toLower [sep] = [sep] from congrArg (· :: []) hsep]

theorem cut?_map {sep : Char} {f : Char → Char} (hf : ∀ c, f c = sep ↔ c = sep) (s : Text) :
    cut? sep (s.map f) = (cut? sep s).map fun (front, back) => (front.map f, back.map f) := by
  induction s with
  | nil => rfl
  | cons c s ih =>
    rw [List.map_cons, cut?, cut?]
    by_cases h : c = sep
    · rw [if_pos ((hf c).2 h), if_pos h]
      rfl
    · rw [if_neg fun hc => h ((hf c).1 hc), if_neg h, ih]
      cases cut? sep s <;> rfl

theorem pieces_map {sep : Char} {f : Char → Char} (hf : ∀ c, f c = sep ↔ c = sep) (s : Text) :
    pieces sep (s.map f) = (pieces sep s).map (List.map f) := by
  induction s with
  | nil => rfl
  | cons c s ih =>
    rw [List.map_cons, pieces, pieces, ih]
    by_cases h : c = sep
    · rw [if_pos ((hf c).2 h), if_pos h]
      rfl
    · rw [if_neg fun hc => h ((hf c).1 hc), if_neg h]
      cases pieces sep s <;> rfl

/-- The pieces of a text in lower case are those of the text. -/
theorem pieces_toLower {sep : Char} (hsep : sep.isAlpha = false) (s : Text) :
    pieces sep (toLower s) = (pieces sep s).map toLower := pieces_map (toLower_eq_iff hsep) s

end OAuth.Text
