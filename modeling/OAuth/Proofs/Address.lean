import OAuth.Proofs.Domain

/-!
# Addresses read back

An address is read back from its written form, the one of four bytes (`Ipv4.ofText?_toText`) and,
if it was read from a text, the one of eight groups (`Ipv6.ofText?_toText`). The written form of
the first is a domain in ASCII too (`Domain.toAscii?_of_dotted`), so that it is found where a domain
is looked for.
-/

namespace OAuth

namespace Url

/-! ## Numbers -/

namespace Ipv4

variable {radix n : Nat} {s : Text}

theorem number?_concat (radix : Nat) (s : Text) (c : Char) : number? radix (s ++ [c]) =
    match number? radix s, Hex.value? c with
    | some n, some d => if d < radix then some (n * radix + d) else none
    | _, _ => none := List.foldl_append

theorem value?_digitChar (h : n < 16) : Hex.value? n.digitChar = some n := by
  have all : ∀ m ∈ List.range 16, Hex.value? m.digitChar = some m := by decide
  exact all n (List.mem_range.2 h)

/-- **A number is read back from its digits.** -/
theorem number?_toDigits (hlow : 1 < radix) (hhigh : radix ≤ 16) (n : Nat) :
    number? radix (Nat.toDigits radix n) = some n := by
  induction n using Nat.strongRecOn with
  | _ n ih =>
    rw [Nat.toDigits_eq_if hlow]
    split
    · next hlt =>
      rw [← List.nil_append [n.digitChar], number?_concat, value?_digitChar (by omega)]
      simp [number?, hlt]
    · next hle =>
      have hmod : n % radix < radix := Nat.mod_lt n (by omega)
      rw [number?_concat, ih (n / radix) (Nat.div_lt_self (by omega) hlow),
        value?_digitChar (by omega)]
      simp [hmod, Nat.div_add_mod']

/-- A number is as small as its digits are few. -/
theorem lt_of_number? (h : number? radix s = some n) : n < radix ^ s.length := by
  induction s using List.reverseRecOn generalizing n with
  | nil =>
    obtain rfl := Option.some.inj h
    exact Nat.one_pos
  | append_singleton s c ih =>
    rw [number?_concat] at h
    split at h
    · next m d hm hd =>
      split at h
      · next hlt =>
        obtain rfl := Option.some.inj h
        have hle : (m + 1) * radix ≤ radix ^ s.length * radix := Nat.mul_le_mul_right _ (ih hm)
        rw [List.length_append, List.length_singleton, Nat.pow_succ]
        rw [Nat.add_mul] at hle
        omega
      · cases h
    · cases h

/-! ## Addresses of four bytes -/

theorem part?_decimal (h : n < 256) : part? (Text.decimal n) = some n := by
  have all : ∀ m < 256, part? (Text.decimal m) = some m := by decide +kernel
  exact all n h

theorem isDigit_of_mem_decimal {c : Char} (h : c ∈ Text.decimal n) : c.isDigit = true :=
  Nat.isDigit_of_mem_toDigits (by decide) (by decide) h

theorem decimal_ne_nil (n : Nat) : Text.decimal n ≠ [] := Nat.toDigits_ne_nil

/-- The bytes of an address, the highest one first. -/
def bytes (address : Ipv4) : List Nat :=
  [24, 16, 8, 0].map fun shift => address.value >>> shift % 256

theorem toText_eq (address : Ipv4) :
    address.toText = Text.join ['.'] (address.bytes.map Text.decimal) := by
  rw [bytes, List.map_map]
  rfl

theorem parts_toText (address : Ipv4) : parts address.toText = address.bytes.map Text.decimal := by
  have hpieces : Text.pieces '.' address.toText = address.bytes.map Text.decimal := by
    rw [toText_eq]
    refine Text.pieces_join (by simp [bytes]) fun part hpart hdot => ?_
    obtain ⟨n, -, rfl⟩ := List.mem_map.1 hpart
    exact absurd (isDigit_of_mem_decimal hdot) (by decide)
  rw [parts, hpieces]
  split
  · next rest hrest =>
    have hlast : [] ∈ address.bytes.map Text.decimal := by
      rw [← List.mem_reverse, hrest]
      exact List.mem_cons_self
    obtain ⟨n, -, hnil⟩ := List.mem_map.1 hlast
    exact absurd hnil (decimal_ne_nil n)
  · rw [List.reverse_reverse]

theorem endsInNumber_toText (address : Ipv4) : endsInNumber address.toText = true := by
  have hlast : (address.bytes.map Text.decimal).getLast? =
      some (Text.decimal (address.value >>> 0 % 256)) := rfl
  rw [endsInNumber, parts_toText, hlast]
  split
  · next h => cases h
  · next h => exact absurd (Option.some.inj h) (decimal_ne_nil _)
  · next last _ h =>
    obtain rfl := Option.some.inj h
    rw [Bool.or_eq_true, List.all_eq_true]
    exact .inl fun c hc => isDigit_of_mem_decimal hc

/-- Four bytes make up the address that they are the bytes of. -/
theorem ofParts?_bytes (address : Ipv4) :
    ofParts? [address.value >>> 24 % 256, address.value >>> 16 % 256, address.value >>> 8 % 256]
      (address.value >>> 0 % 256) = some address := by
  obtain ⟨value, hvalue⟩ := address
  have hsize : value < 4294967296 := hvalue
  have hbytes : ∀ shift, value >>> shift % 256 < 256 := fun shift => Nat.mod_lt _ (by decide)
  have hsum : [value >>> 24 % 256, value >>> 16 % 256, value >>> 8 % 256].foldl
      (fun n b => n * 256 + b) 0 <<< 8 + value >>> 0 % 256 = value := by
    simp only [List.foldl_cons, List.foldl_nil, Nat.shiftRight_eq_div_pow, Nat.shiftLeft_eq]
    omega
  have hsmall : ([value >>> 24 % 256, value >>> 16 % 256, value >>> 8 % 256].all (· < 256) &&
      value >>> 0 % 256 < 1 <<< 8) = true := by
    simp only [List.all_cons, List.all_nil, Bool.and_true, Bool.and_eq_true, decide_eq_true_eq]
    exact ⟨⟨hbytes 24, hbytes 16, hbytes 8⟩, hbytes 0⟩
  rw [ofParts?]
  dsimp only [List.length_cons, List.length_nil, Nat.reduceAdd, Nat.reduceSub, Nat.reduceMul]
  simp only [hsmall, hsum, hvalue, ↓reduceIte, ↓reduceDIte]

/-- **An address of four bytes is read back.** -/
theorem ofText?_toText (address : Ipv4) : ofText? address.toText = some address := by
  have hread : (parts address.toText).mapM part? = some address.bytes := by
    rw [parts_toText, Text.mapM_eq_some, List.forall₂_map_left_iff, List.forall₂_same]
    intro n hn
    obtain ⟨shift, -, rfl⟩ := List.mem_map.1 hn
    exact part?_decimal (Nat.mod_lt _ (by decide))
  rw [ofText?, hread]
  exact ofParts?_bytes address

end Ipv4

/-! ## Addresses of eight groups -/

namespace Ipv6

variable {address : Ipv6} {gs : List Nat} {s : Text} {n : Nat}

/-- Groups of sixteen bits. -/
def AreGroups (gs : List Nat) : Prop := ∀ g ∈ gs, g < 65536

/-- Addresses of eight groups of sixteen bits. -/
def IsWhole (address : Ipv6) : Prop := address.groups.length = 8 ∧ AreGroups address.groups

theorem lt_of_group? (h : group? s = some n) : n < 65536 := by
  rw [group?] at h
  split at h
  · cases h
  · next hlength =>
    rw [Bool.or_eq_true, decide_eq_true_eq, not_or, Nat.not_lt] at hlength
    calc n < 16 ^ s.length := Ipv4.lt_of_number? h
      _ ≤ 16 ^ 4 := Nat.pow_le_pow_right (by decide) hlength.2

theorem areGroups_of_dotted? (h : dotted? s = some gs) : AreGroups gs := by
  have hbyte : ∀ {s n}, byte? s = some n → n < 256 := by
    intro s n h
    rw [byte?] at h
    split at h
    · cases h
    · exact of_decide_eq_true (Option.filter_eq_some_iff.1 h).2
  rw [dotted?] at h
  split at h
  · next a b c d hread =>
    have hbytes : ∀ n ∈ [a, b, c, d], n < 256 := by
      intro n hn
      obtain ⟨_, -, hn⟩ := Text.exists_of_mem_mapM hread hn
      exact hbyte hn
    simp only [List.forall_mem_cons] at hbytes
    obtain rfl := Option.some.inj h
    intro g hg
    simp only [List.mem_cons, List.not_mem_nil, or_false] at hg
    omega
  · cases h

theorem areGroups_of_groups? {atEnd : Bool} {parts : List Text}
    (h : groups? atEnd parts = some gs) : AreGroups gs := by
  induction parts generalizing gs with
  | nil =>
    obtain rfl := Option.some.inj h
    exact fun _ hg => absurd hg List.not_mem_nil
  | cons s rest ih =>
    cases rest with
    | nil =>
      rw [groups?] at h
      split at h
      · exact areGroups_of_dotted? h
      · obtain ⟨g, hg, rfl⟩ := Option.map_eq_some_iff.1 h
        intro n hn
        obtain rfl := List.mem_singleton.1 hn
        exact lt_of_group? hg
    | cons next more =>
      simp only [groups?] at h
      split at h
      · next g gs hg hgs =>
        obtain rfl := Option.some.inj h
        exact List.forall_mem_cons.2 ⟨lt_of_group? hg, ih hgs⟩
      · cases h

theorem areGroups_of_side? {atEnd : Bool} (h : side? atEnd s = some gs) : AreGroups gs := by
  rw [side?] at h
  split at h
  · obtain rfl := Option.some.inj h
    exact fun _ hg => absurd hg List.not_mem_nil
  · exact areGroups_of_groups? h

/-- **What is read is eight groups of sixteen bits.** -/
theorem isWhole_of_ofText? (h : ofText? s = some address) : address.IsWhole := by
  rw [ofText?] at h
  split at h
  · split at h
    · next front back hfront hback =>
      dsimp only at h
      split at h
      · next hlt =>
        obtain rfl := Option.some.inj h
        refine ⟨?_, ?_⟩
        · simp only [List.length_append, List.length_replicate]
          omega
        · intro g hg
          rw [List.mem_append, List.mem_append, List.mem_replicate] at hg
          rcases hg with (hg | ⟨-, rfl⟩) | hg
          · exact areGroups_of_side? hfront g hg
          · decide
          · exact areGroups_of_side? hback g hg
      · cases h
    · cases h
  · split at h
    · next groups hgroups =>
      split at h
      · next hlength =>
        obtain rfl := Option.some.inj h
        exact ⟨hlength, areGroups_of_groups? hgroups⟩
      · cases h
    · cases h

/-- The digits of a group are read as the group. -/
theorem group?_ofNat (h : n < 65536) : group? (Hex.ofNat n) = some n := by
  have hne : (Hex.ofNat n).isEmpty = false := by
    rw [Hex.ofNat, List.isEmpty_eq_false_iff]
    exact Nat.toDigits_ne_nil
  have hlength : (Hex.ofNat n).length ≤ 4 :=
    (Nat.length_toDigits_le_iff (by decide) (by decide)).2 h
  rw [group?, hne, Bool.false_or, if_neg (by simpa using hlength)]
  exact Ipv4.number?_toDigits (by decide) (by decide) n

theorem exists_of_mem_ofNat {c : Char} (hc : c ∈ Hex.ofNat n) : ∃ d < 16, c = d.digitChar := by
  induction n using Nat.strongRecOn with
  | _ n ih =>
    rw [Hex.ofNat, Nat.toDigits_eq_if (by decide)] at hc
    split at hc
    · next hlt => exact ⟨n, hlt, List.mem_singleton.1 hc⟩
    · next hle =>
      rcases List.mem_append.1 hc with hc | hc
      · exact ih (n / 16) (Nat.div_lt_self (by omega) (by decide)) hc
      · exact ⟨n % 16, Nat.mod_lt n (by decide), List.mem_singleton.1 hc⟩

theorem not_mem_ofNat {sep : Char} (hsep : Hex.value? sep = none) (n : Nat) :
    sep ∉ Hex.ofNat n := by
  intro hmem
  obtain ⟨d, hd, rfl⟩ := exists_of_mem_ofNat hmem
  rw [Ipv4.value?_digitChar hd] at hsep
  cases hsep

theorem ofNat_ne_nil (n : Nat) : Hex.ofNat n ≠ [] := Nat.toDigits_ne_nil

theorem pieces_joined (h : gs ≠ []) : Text.pieces ':' (joined gs) = gs.map Hex.ofNat := by
  refine Text.pieces_join (by simpa using h) fun part hpart => ?_
  obtain ⟨n, -, rfl⟩ := List.mem_map.1 hpart
  exact not_mem_ofNat (by decide) n

theorem groups?_map (h : AreGroups gs) (atEnd : Bool) :
    groups? atEnd (gs.map Hex.ofNat) = some gs := by
  induction gs with
  | nil => rfl
  | cons g gs ih =>
    obtain ⟨hg, hgs⟩ := List.forall_mem_cons.1 h
    cases gs with
    | nil =>
      have hdot : '.' ∉ Hex.ofNat g := not_mem_ofNat (by decide) g
      simp [groups?, group?_ofNat hg, hdot]
    | cons next more =>
      have hmore := ih hgs
      rw [List.map_cons] at hmore ⊢
      rw [List.map_cons]
      simp [groups?, group?_ofNat hg, hmore]

theorem joined_cons (g next : Nat) (more : List Nat) :
    joined (g :: next :: more) = Hex.ofNat g ++ ':' :: joined (next :: more) := by
  simp [joined, Text.join, List.intercalate]

/-- A written list of groups begins with a digit. -/
theorem exists_joined (g : Nat) (gs : List Nat) : ∃ c t, joined (g :: gs) = c :: t ∧ c ≠ ':' := by
  obtain ⟨c, t, hdigits⟩ := List.exists_cons_of_ne_nil (ofNat_ne_nil g)
  have hc : c ≠ ':' := by
    rintro rfl
    exact not_mem_ofNat (by decide) g (hdigits ▸ List.mem_cons_self)
  cases gs with
  | nil => exact ⟨c, t, by rw [← hdigits]; simp [joined, Text.join], hc⟩
  | cons next more =>
    refine ⟨c, t ++ ':' :: joined (next :: more), ?_, hc⟩
    rw [joined_cons, hdigits]
    rfl

/-- The groups on one side of `::` are read back. -/
theorem side?_joined (h : AreGroups gs) (atEnd : Bool) : side? atEnd (joined gs) = some gs := by
  cases gs with
  | nil => rfl
  | cons g gs =>
    obtain ⟨c, t, hjoined, -⟩ := exists_joined g gs
    rw [side?, hjoined, List.isEmpty_cons, ← hjoined, pieces_joined (List.cons_ne_nil g gs)]
    exact groups?_map h atEnd

theorem cutGap?_cons {c : Char} (hc : c ≠ ':') (t : Text) :
    cutGap? (c :: t) = (cutGap? t).map fun (front, back) => (c :: front, back) := by
  rw [cutGap?.eq_def]
  split
  · next heq => exact absurd (List.cons.inj heq).1 hc
  · next heq =>
    obtain ⟨rfl, rfl⟩ := List.cons.inj heq
    rfl
  · next heq => cases heq

theorem cutGap?_colon {c : Char} (hc : c ≠ ':') (t : Text) : cutGap? (':' :: c :: t) =
    (cutGap? (c :: t)).map fun (front, back) => (':' :: front, back) := by
  rw [cutGap?.eq_def]
  split
  · next heq => exact absurd (List.cons.inj (List.cons.inj heq).2).1 hc
  · next heq =>
    obtain ⟨rfl, rfl⟩ := List.cons.inj heq
    rfl
  · next heq => cases heq

theorem cutGap?_append {s : Text} (h : ':' ∉ s) (t : Text) :
    cutGap? (s ++ t) = (cutGap? t).map fun (front, back) => (s ++ front, back) := by
  induction s with
  | nil =>
    rw [List.nil_append]
    cases cutGap? t <;> rfl
  | cons c s ih =>
    rw [List.mem_cons, not_or] at h
    rw [List.cons_append, cutGap?_cons (Ne.symm h.1), ih h.2]
    cases cutGap? t <;> rfl

/-- There is no gap within groups. -/
theorem cutGap?_joined (gs : List Nat) (t : Text) :
    cutGap? (joined gs ++ t) = (cutGap? t).map fun (front, back) => (joined gs ++ front, back) := by
  induction gs with
  | nil => exact cutGap?_append List.not_mem_nil t
  | cons g gs ih =>
    have hcolon : ':' ∉ Hex.ofNat g := not_mem_ofNat (by decide) g
    cases gs with
    | nil =>
      have hone : joined [g] = Hex.ofNat g := by simp [joined, Text.join]
      rw [hone]
      exact cutGap?_append hcolon t
    | cons next more =>
      obtain ⟨c, s, hjoined, hc⟩ := exists_joined next more
      rw [joined_cons, List.append_assoc, cutGap?_append hcolon, List.cons_append, hjoined,
        List.cons_append, cutGap?_colon hc, ← List.cons_append, ← hjoined, ih]
      cases cutGap? t with
      | none => rfl
      | some cut => simp

theorem zeroRun_le (gs : List Nat) : zeroRun gs ≤ gs.length :=
  (List.takeWhile_sublist _).length_le

theorem eq_zeroRun (gs : List Nat) :
    gs = List.replicate (zeroRun gs) 0 ++ gs.drop (zeroRun gs) := by
  have hsplit := List.takeWhile_append_dropWhile (p := (· == 0)) (l := gs)
  have hzeros : gs.takeWhile (· == 0) = List.replicate (zeroRun gs) 0 :=
    List.eq_replicate_of_mem fun g hg => by simpa using List.all_eq_true.1 List.all_takeWhile g hg
  have hdrop : gs.drop (zeroRun gs) = gs.dropWhile (· == 0) :=
    calc gs.drop (zeroRun gs)
        = (gs.takeWhile (· == 0) ++ gs.dropWhile (· == 0)).drop (zeroRun gs) := by rw [hsplit]
      _ = gs.dropWhile (· == 0) := List.drop_left
  rw [hdrop, ← hzeros, hsplit]

/-- **The longest run is one of zeros.** -/
theorem longestRun_spec (place : Nat) (gs : List Nat) : ∃ before,
    (longestRun place gs).1 = place + before ∧ before + (longestRun place gs).2 ≤ gs.length ∧
      gs = gs.take before ++ List.replicate (longestRun place gs).2 0 ++
        gs.drop (before + (longestRun place gs).2) := by
  induction gs generalizing place with
  | nil => exact ⟨0, rfl, Nat.le_refl _, rfl⟩
  | cons g gs ih =>
    obtain ⟨before, hstart, hlength, hsplit⟩ := ih (place + 1)
    rw [longestRun]
    generalize longestRun (place + 1) gs = run at *
    obtain ⟨start, length⟩ := run
    dsimp only at *
    split
    · refine ⟨0, rfl, by simpa using zeroRun_le (g :: gs), ?_⟩
      simpa using eq_zeroRun (g :: gs)
    · refine ⟨before + 1, by dsimp only; omega, by simp only [List.length_cons]; omega, ?_⟩
      dsimp only
      rw [Nat.add_right_comm, List.take_succ_cons, List.drop_succ_cons, List.cons_append,
        List.cons_append, ← hsplit]

theorem mem_toText {c : Char} (hc : c ∈ address.toText) : c = ':' ∨ ∃ d < 16, c = d.digitChar := by
  have hjoined : ∀ {gs}, c ∈ joined gs → c = ':' ∨ ∃ d < 16, c = d.digitChar := by
    intro gs hc
    rcases Text.mem_join hc with hc | ⟨part, hpart, hc⟩
    · exact .inl (List.mem_singleton.1 hc)
    · obtain ⟨n, -, rfl⟩ := List.mem_map.1 hpart
      exact .inr (exists_of_mem_ofNat hc)
  rw [toText] at hc
  dsimp only at hc
  split at hc
  · rcases List.mem_append.1 hc with hc | hc
    · rcases List.mem_append.1 hc with hc | hc
      · exact hjoined hc
      · exact .inl (by simpa using hc)
    · exact hjoined hc
  · exact hjoined hc

/-- **An address of eight groups is read back.** -/
theorem ofText?_toText (h : address.IsWhole) : ofText? address.toText = some address := by
  obtain ⟨gs⟩ := address
  obtain ⟨hlength, hgroups⟩ := h
  dsimp only at hlength hgroups
  obtain ⟨before, hstart, hend, hsplit⟩ := longestRun_spec 0 gs
  rw [Nat.zero_add] at hstart
  have hne : gs ≠ [] := by
    rintro rfl
    cases hlength
  rw [toText]
  generalize longestRun 0 gs = run at *
  obtain ⟨start, length⟩ := run
  dsimp only at *
  subst hstart
  split
  · next hlong =>
    have hfront : AreGroups (gs.take start) := fun g hg => hgroups g (List.mem_of_mem_take hg)
    have hback : AreGroups (gs.drop (start + length)) := fun g hg =>
      hgroups g (List.mem_of_mem_drop hg)
    have hcut : cutGap? (joined (gs.take start) ++ [':', ':'] ++
        joined (gs.drop (start + length))) =
          some (joined (gs.take start), joined (gs.drop (start + length))) := by
      rw [List.append_assoc, cutGap?_joined]
      simp [cutGap?]
    have hgiven : (gs.take start).length + (gs.drop (start + length)).length = 8 - length := by
      rw [List.length_take, List.length_drop]
      omega
    rw [ofText?, hcut]
    dsimp only
    rw [side?_joined hfront, side?_joined hback]
    dsimp only
    rw [hgiven, if_pos (by omega), show 8 - (8 - length) = length by omega, ← hsplit]
  · have hcut : cutGap? (joined gs) = none := by
      have hjoined := cutGap?_joined gs []
      rwa [List.append_nil] at hjoined
    rw [ofText?, hcut]
    dsimp only
    rw [pieces_joined hne, groups?_map hgroups]
    exact if_pos hlength

end Ipv6

end Url

namespace Domain

/-- Whether a character is a digit or a dot. -/
def isDotted (c : Char) : Bool := c.isDigit || c == '.'

theorem isDigit_cases {c : Char} (h : c.isDigit = true) :
    ∃ n < 10, c = Char.ofNat (0x30 + n) := by
  simp only [Char.isDigit, Bool.and_eq_true, decide_eq_true_eq, ge_iff_le,
    UInt32.le_iff_toNat_le] at h
  have hlow : 0x30 ≤ c.toNat := h.1
  have hhigh : c.toNat ≤ 0x39 := h.2
  refine ⟨c.toNat - 0x30, by omega, ?_⟩
  rw [Nat.add_sub_cancel' hlow, Char.ofNat_toNat]

/-- What digits are: characters of labels, without a mark, a joiner or a direction. -/
theorem sound_of_isDigit {c : Char} (h : c.isDigit = true) : isLabelChar c = true ∧
    Unicode.isMark c = false ∧ isRightToLeft (Unicode.direction c) = false := by
  have all : ∀ n < 10, isLabelChar (Char.ofNat (0x30 + n)) = true ∧
      Unicode.isMark (Char.ofNat (0x30 + n)) = false ∧
      isRightToLeft (Unicode.direction (Char.ofNat (0x30 + n))) = false := by decide +kernel
  obtain ⟨n, hn, rfl⟩ := isDigit_cases h
  exact all n hn

theorem joinersFrom_of_forall {s : Text} (h : ∀ c ∈ s, c ≠ nonJoiner ∧ c ≠ joiner)
    (before : Text) : joinersFrom before s = true := by
  induction s generalizing before with
  | nil => rfl
  | cons c s ih =>
    obtain ⟨hc, hs⟩ := List.forall_mem_cons.1 h
    rw [joinersFrom, ih hs, Bool.and_true]
    simp [hc]

/-- **Digits and dots are a domain in ASCII.** -/
theorem toAscii?_of_dotted {s : Text} (h : ∀ c ∈ s, isDotted c = true) : toAscii? s = some s := by
  have hlower : ∀ c ∈ s, c.toNat < 0x80 ∧ c.isUpper = false := by
    have all : ∀ n < 10, (Char.ofNat (0x30 + n)).toNat < 0x80 ∧
        (Char.ofNat (0x30 + n)).isUpper = false := by decide
    intro c hc
    have hdotted := h c hc
    rw [isDotted, Bool.or_eq_true, beq_iff_eq] at hdotted
    rcases hdotted with hdigit | rfl
    · obtain ⟨n, hn, rfl⟩ := isDigit_cases hdigit
      exact all n hn
    · decide
  have hmapped : Unicode.normal (s.flatMap Unicode.mapChar) = s := by
    rw [flatMap_mapChar hlower, Unicode.normal_of_ascii fun c hc => (hlower c hc).1]
  have hdigits : ∀ piece ∈ Text.pieces '.' s, ∀ c ∈ piece, c.isDigit = true := by
    intro piece hpiece c hc
    obtain ⟨hmem, hne⟩ := Text.mem_of_mem_pieces hpiece hc
    have hdotted := h c hmem
    rw [isDotted, Bool.or_eq_true, beq_iff_eq] at hdotted
    exact hdotted.resolve_right hne
  have hread : (Text.pieces '.' s).mapM readLabel? =
      some ((Text.pieces '.' s).map fun piece => ⟨piece, piece⟩) := by
    rw [Text.mapM_eq_some, List.forall₂_map_right_iff, List.forall₂_same]
    intro piece hpiece
    have hnone : Text.after? encodedMark piece = none := by
      refine Option.eq_none_iff_forall_ne_some.2 fun rest hrest => ?_
      have hx : 'x' ∈ piece := by
        rw [Text.after?_eq_some.1 hrest]
        exact List.mem_append_left rest (by decide)
      exact absurd (hdigits piece hpiece 'x' hx) (by decide)
    have hchars : piece.all isLabelChar = true := List.all_eq_true.2 fun c hc =>
      (sound_of_isDigit (hdigits piece hpiece c hc)).1
    have hascii : piece.all isAscii = true := List.all_eq_true.2 fun c hc =>
      decide_eq_true (hlower c (Text.mem_of_mem_pieces hpiece hc).1).1
    rw [readLabel?, hnone]
    simp [readPlain?, hchars, hascii]
  have hsound : areSound ((Text.pieces '.' s).map fun piece => ⟨piece, piece⟩) = true := by
    have hlabels : ((Text.pieces '.' s).map fun piece => (⟨piece, piece⟩ : Label)).all
        Label.isSound = true := by
      rw [List.all_map, List.all_eq_true]
      intro piece hpiece
      have hdigit := hdigits piece hpiece
      have hhead : (piece.head?.map Unicode.isMark).getD false = false := by
        cases piece with
        | nil => rfl
        | cons c piece => exact (sound_of_isDigit (hdigit c List.mem_cons_self)).2.1
      have hjoiners : joinersFrom [] piece = true := joinersFrom_of_forall (fun c hc => by
        refine ⟨?_, ?_⟩ <;> rintro rfl <;> exact absurd (hdigit _ hc) (by decide)) []
      rw [Function.comp_apply, Label.isSound, hhead, hjoiners]
      rfl
    have hdirections : (directions ((Text.pieces '.' s).map fun piece => ⟨piece, piece⟩)).any
        (·.any isRightToLeft) = false := by
      simp only [directions, List.any_eq_false, List.mem_map]
      rintro _ ⟨_, ⟨piece, hpiece, rfl⟩, rfl⟩ hany
      obtain ⟨_, hmem, hright⟩ := List.any_eq_true.1 hany
      obtain ⟨c, hc, rfl⟩ := List.mem_map.1 hmem
      rw [(sound_of_isDigit (hdigits piece hpiece c hc)).2.2] at hright
      cases hright
    rw [areSound, hlabels, hdirections]
    rfl
  rw [toAscii?, labels?_eq_some.2 ⟨by rw [hmapped, hread], hsound⟩, Option.map_some, List.map_map]
  refine congrArg some ((congrArg (Text.join ['.']) (List.map_id _)).trans (Text.join_pieces '.' s))

end Domain

end OAuth
